import Tinkerbell.Secondstar.Handler

/-!
Owns: that at most one activate command is running for a user, and that a
handler finds its own state when it cleans up, in every run in which no session
looks a user up while another session of that user is being set up.

The look-up and the `Set` that makes it final are two steps, and nothing keeps
a second session from looking up between them.

The invariant ties the store to the phases: a user has an entry exactly while
a session of the user holds it.
-/

namespace Tinkerbell.Secondstar

open TransitionSystem

def Phase.isSettingUp : Phase → Bool
  | .initial .starting | .initial .started => true
  | _ => false

def Phase.isHolding : Phase → Bool
  | .initial .serving | .initial .exited | .initial (.found _) | .initial (.signalling _)
  | .initial (.sending _ _) | .initial (.awaiting _) | .initial .removing => true
  | _ => false

def Phase.isActive (phase : Phase) : Bool :=
  phase == .initial .started || phase.isHolding

def Phase.FindsOwn (s : SessionID) : Phase → Prop
  | .initial (.found value) => value = some s
  | .initial (.signalling value) => value = s
  | .initial (.sending value channel) => value = s ∧ channel = s
  | .initial (.awaiting value) => value = s
  | .initial .panicked => False
  | _ => True

/-- At most one session of a user is active. -/
def OneCommand (world : World) : Prop :=
  ∀ (s t : SessionID) (first second : Session), world.sessions[s]? = some first →
    world.sessions[t]? = some second →
    first.user = second.user → first.phase.isActive = true → second.phase.isActive = true → s = t

def CleansUpOwn (world : World) : Prop :=
  ∀ (s : SessionID) (session : Session), world.sessions[s]? = some session →
    session.phase.FindsOwn s

def looksUpAlone (world : World) : Event → Bool
  | .proceed s =>
    match world.sessions[s]? with
    | some session =>
      session.phase != .connected || world.sessions.all fun other =>
        other.user != session.user || !other.phase.isSettingUp
    | none => true
  | _ => true

def Phase.isOccupying (phase : Phase) : Bool := phase.isSettingUp || phase.isHolding

structure Exclusive (world : World) : Prop where
  stored : ∀ (user : String) (s : SessionID), world.globalState.get user = some s ↔
    ∃ session : Session, world.sessions[s]? = some session ∧ session.user = user ∧
      session.phase.isHolding = true
  alone : ∀ (s t : SessionID) (first second : Session), world.sessions[s]? = some first →
    world.sessions[t]? = some second →
    first.user = second.user → first.phase.isSettingUp = true →
    second.phase.isOccupying = true → s = t
  own : CleansUpOwn world
  running : world.crashed = false

theorem noneSettingUp_of_looksUpAlone {world : World} {s : SessionID} {session : Session}
    (isSession : world.sessions[s]? = some session) (isConnected : session.phase = .connected)
    (alone : looksUpAlone world (.proceed s) = true) :
    ∀ other ∈ world.sessions, other.user = session.user → other.phase.isSettingUp = false := by
  intro other member sameUser
  simp only [looksUpAlone, isSession, isConnected, bne_self_eq_false, Bool.false_or,
    List.all_eq_true] at alone
  simpa [sameUser] using alone other member

theorem exclusive_start : Exclusive {} where
  stored := by
    intro user s
    constructor
    · intro isStored
      cases isStored
    · rintro ⟨session, isSession, _⟩
      cases isSession
  alone := by
    intro s t first second isFirst
    cases isFirst
  own := by
    intro s session isSession
    cases isSession
  running := rfl

namespace Exclusive

variable {world : World}

section

variable (exclusive : Exclusive world)
include exclusive

theorem stored_of_holding {s : SessionID} {session : Session}
    (isSession : world.sessions[s]? = some session) (holding : session.phase.isHolding = true) :
    world.globalState.get session.user = some s :=
  (exclusive.stored session.user s).mpr ⟨session, isSession, rfl, holding⟩

theorem congr {other : World}
    (sameSessions : other.sessions = world.sessions)
    (sameStore : other.globalState = world.globalState)
    (sameProcess : other.crashed = world.crashed) :
    Exclusive other := by
  obtain ⟨stored, alone, own, running⟩ := exclusive
  refine ⟨?_, ?_, ?_, sameProcess.trans running⟩
  · rw [sameSessions, sameStore]
    exact stored
  · rw [sameSessions]
    exact alone
  · unfold CleansUpOwn
    rw [sameSessions]
    exact own

theorem eq_of_holding {s t : SessionID} {first second : Session}
    (isFirst : world.sessions[s]? = some first) (isSecond : world.sessions[t]? = some second)
    (sameUser : first.user = second.user) (firstHolds : first.phase.isHolding = true)
    (secondHolds : second.phase.isHolding = true) : s = t := by
  have storedFirst := exclusive.stored_of_holding isFirst firstHolds
  rw [sameUser, exclusive.stored_of_holding isSecond secondHolds] at storedFirst
  exact (Option.some.inj storedFirst).symm

end

section Change

variable {s : SessionID} {session : Session} {phase : Phase}
  (isSession : world.sessions[s]? = some session)

include isSession

theorem holds_set {user : String}
    (unconcerned : session.user = user → phase.isHolding = session.phase.isHolding)
    (t : SessionID) :
    (∃ other : Session,
        (world.sessions.set s { session with phase })[t]? = some other ∧
        other.user = user ∧ other.phase.isHolding = true) ↔
      ∃ other : Session, world.sessions[t]? = some other ∧ other.user = user ∧
        other.phase.isHolding = true := by
  rw [getElem?_set_of_some isSession]
  split
  · next same =>
    subst same
    rw [isSession]
    simp only [Option.some.injEq, exists_eq_left']
    exact and_congr_right fun isUser => by rw [unconcerned isUser]
  · rfl

section

variable (exclusive : Exclusive world)
include exclusive

theorem alone_set
    (wasSettingUp : phase.isSettingUp = true → session.phase.isSettingUp = true)
    (wasOccupying : phase.isOccupying = true → session.phase.isOccupying = true) :
    ∀ (t u : SessionID) (first second : Session),
      (world.sessions.set s { session with phase })[t]? = some first →
      (world.sessions.set s { session with phase })[u]? = some second →
      first.user = second.user → first.phase.isSettingUp = true →
      second.phase.isOccupying = true → t = u := by
  have before : ∀ (t : SessionID) (other : Session),
      (world.sessions.set s { session with phase })[t]? = some other →
      ∃ old : Session, world.sessions[t]? = some old ∧ old.user = other.user ∧
        (other.phase.isSettingUp = true → old.phase.isSettingUp = true) ∧
        (other.phase.isOccupying = true → old.phase.isOccupying = true) := by
    intro t other isOther
    rw [getElem?_set_of_some isSession] at isOther
    split at isOther
    · next same =>
      cases isOther
      exact ⟨session, same ▸ isSession, rfl, wasSettingUp, wasOccupying⟩
    · exact ⟨other, isOther, rfl, id, id⟩
  intro t u first second isFirst isSecond sameUser settingUp occupying
  obtain ⟨oldFirst, isOldFirst, firstUser, firstSettingUp, _⟩ := before t first isFirst
  obtain ⟨oldSecond, isOldSecond, secondUser, _, secondOccupying⟩ := before u second isSecond
  exact exclusive.alone t u oldFirst oldSecond isOldFirst isOldSecond
    (firstUser.trans (sameUser.trans secondUser.symm)) (firstSettingUp settingUp)
    (secondOccupying occupying)

theorem own_set (own : phase.FindsOwn s) :
    ∀ (t : SessionID) (other : Session),
      (world.sessions.set s { session with phase })[t]? = some other →
      other.phase.FindsOwn t := by
  intro t other isOther
  rw [getElem?_set_of_some isSession] at isOther
  split at isOther
  · next same =>
    cases isOther
    exact same ▸ own
  · exact exclusive.own t other isOther

theorem put
    (sameHolding : phase.isHolding = session.phase.isHolding)
    (wasSettingUp : phase.isSettingUp = true → session.phase.isSettingUp = true)
    (own : phase.FindsOwn s) : Exclusive (world.put s { session with phase }) where
  stored := fun user t =>
    (exclusive.stored user t).trans (holds_set isSession (fun _ => sameHolding) t).symm
  alone := by
    apply exclusive.alone_set isSession wasSettingUp
    unfold Phase.isOccupying
    rw [sameHolding, Bool.or_eq_true, Bool.or_eq_true]
    exact Or.imp_left wasSettingUp
  own := exclusive.own_set isSession own
  running := exclusive.running

theorem lookUp (isConnected : session.phase = .connected)
    (nothing : world.globalState.get session.user = none)
    (noneSettingUp : ∀ other ∈ world.sessions, other.user = session.user →
      other.phase.isSettingUp = false) :
    Exclusive (world.put s { session with phase := .initial .starting }) where
  stored := fun user t =>
    (exclusive.stored user t).trans
      (holds_set isSession (fun _ => by rw [isConnected]; rfl) t).symm
  alone := by
    have free : ∀ other ∈ world.sessions, other.user = session.user →
        other.phase.isOccupying = false := by
      intro other member sameUser
      obtain ⟨_, isOther⟩ := List.mem_iff_getElem?.mp member
      rw [Phase.isOccupying, noneSettingUp other member sameUser, Bool.false_or]
      by_contra holding
      have isStored := exclusive.stored_of_holding isOther (Bool.not_eq_false _ ▸ holding)
      rw [sameUser, nothing] at isStored
      cases isStored
    intro t u first second isFirst isSecond sameUser settingUp occupying
    unfold World.put at isFirst isSecond
    rw [getElem?_set_of_some isSession] at isFirst isSecond
    split at isFirst
    · next sameFirst =>
      cases isFirst
      split at isSecond
      · next sameSecond => exact sameFirst.symm.trans sameSecond
      · have isFree := free second (List.mem_of_getElem? isSecond) sameUser.symm
        rw [isFree] at occupying
        cases occupying
    · split at isSecond
      · cases isSecond
        rw [noneSettingUp first (List.mem_of_getElem? isFirst) sameUser] at settingUp
        cases settingUp
      · exact exclusive.alone t u first second isFirst isSecond sameUser settingUp occupying
  own := exclusive.own_set isSession trivial
  running := exclusive.running

theorem set (isStarted : session.phase = .initial .started) :
    Exclusive (world.advance s session (.initial .serving) .set) where
  stored := by
    intro user t
    have settingUp : session.phase.isSettingUp = true := by rw [isStarted]; rfl
    rw [sessions_advance]
    show (world.globalState.set session.user s).get user = some t ↔ _
    rw [KeyedMap.get_set]
    by_cases sameUser : session.user = user
    · subst sameUser
      rw [if_pos rfl, getElem?_set_of_some isSession]
      split
      · next same => simp [same, Phase.isHolding]
      · next different =>
        constructor
        · intro isStored
          exact absurd (Option.some.inj isStored) different
        · rintro ⟨other, isOther, sameUser, holding⟩
          have occupying : other.phase.isOccupying = true := by
            rw [Phase.isOccupying, holding, Bool.or_true]
          exact absurd (exclusive.alone s t session other isSession isOther sameUser.symm settingUp
            occupying) different
    · rw [if_neg sameUser, exclusive.stored user t]
      exact (holds_set isSession (fun isUser => absurd isUser sameUser) t).symm
  alone := by
    apply exclusive.alone_set isSession
    · intro settingUp
      cases settingUp
    · intro _
      rw [isStarted]
      rfl
  own := by
    exact exclusive.own_set isSession trivial
  running := exclusive.running

theorem delete (isRemoving : session.phase = .initial .removing) :
    Exclusive (world.advance s session (.initial .deactivating) .delete) where
  stored := by
    intro user t
    have holding : session.phase.isHolding = true := by rw [isRemoving]; rfl
    rw [sessions_advance]
    show (world.globalState.erase session.user).get user = some t ↔ _
    rw [KeyedMap.get_erase]
    by_cases sameUser : session.user = user
    · subst sameUser
      rw [if_pos rfl, getElem?_set_of_some isSession]
      split
      · simp [Phase.isHolding]
      · next different =>
        constructor
        · intro isStored
          cases isStored
        · rintro ⟨other, isOther, sameUser, otherHolds⟩
          exact absurd (exclusive.eq_of_holding isSession isOther sameUser.symm holding otherHolds)
            different
    · rw [if_neg sameUser, exclusive.stored user t]
      exact (holds_set isSession (fun isUser => absurd isUser sameUser) t).symm
  alone := by
    apply exclusive.alone_set isSession
    · intro settingUp
      cases settingUp
    · intro occupying
      cases occupying
  own := by
    exact exclusive.own_set isSession trivial
  running := exclusive.running

end

end Change

theorem connect (exclusive : Exclusive world) (user : String) :
    Exclusive { world with sessions := world.sessions ++ [{ user }] } where
  stored := by
    intro other t
    refine (exclusive.stored other t).trans ?_
    constructor
    · rintro ⟨session, isSession, isUser, holding⟩
      obtain ⟨within, _⟩ := List.getElem?_eq_some_iff.mp isSession
      exact ⟨session, (List.getElem?_append_left within).trans isSession, isUser, holding⟩
    · rintro ⟨session, isSession, isUser, holding⟩
      rcases getElem?_connect isSession with isOld | ⟨_, rfl⟩
      · exact ⟨session, isOld, isUser, holding⟩
      · cases holding
  alone := by
    intro t u first second isFirst isSecond sameUser settingUp occupying
    rcases getElem?_connect isFirst with oldFirst | ⟨_, rfl⟩
    · rcases getElem?_connect isSecond with oldSecond | ⟨_, rfl⟩
      · exact exclusive.alone t u first second oldFirst oldSecond sameUser settingUp occupying
      · cases occupying
    · cases settingUp
  own := by
    intro t session isSession
    rcases getElem?_connect isSession with isOld | ⟨_, rfl⟩
    · exact exclusive.own t session isOld
    · trivial
  running := exclusive.running

variable {effect : Effect} {event : Event}

section

variable (exclusive : Exclusive world)
include exclusive

theorem advance_quiet {s : SessionID} {session : Session}
    {phase : Phase} (isSession : world.sessions[s]? = some session)
    (quiet : effect ≠ .set ∧ effect ≠ .delete ∧ effect ≠ .panic)
    (sameHolding : phase.isHolding = session.phase.isHolding)
    (wasSettingUp : phase.isSettingUp = true → session.phase.isSettingUp = true)
    (own : phase.FindsOwn s) : Exclusive (world.advance s session phase effect) := by
  have put := exclusive.put isSession sameHolding wasSettingUp own
  cases effect with
  | none => exact put
  | set => exact absurd rfl quiet.1
  | delete => exact absurd rfl quiet.2.1
  | addSession state delta | wgAdd state | wgDone state => exact put.congr rfl rfl rfl
  | panic => exact absurd rfl quiet.2.2

theorem get_eq {s : SessionID} {user : String} {phase : Phase}
    (isSession : world.sessions[s]? = some ⟨user, phase⟩) (holding : phase.isHolding = true) :
    world.globalState.get user = some s :=
  exclusive.stored_of_holding isSession holding

theorem transition {s : SessionID} {session : Session} {phase : Phase}
    (isSession : world.sessions[s]? = some session)
    (transition : Transition world s session.user event session.phase phase effect)
    (alone : looksUpAlone world event = true) :
    Exclusive (world.advance s session phase effect) := by
  have own := exclusive.own s session isSession
  obtain ⟨_, _⟩ := session
  cases transition with
  | lookUpNothing nothing =>
    exact exclusive.lookUp isSession rfl nothing
      (noneSettingUp_of_looksUpAlone isSession rfl alone)
  | refuse => exact exclusive.advance_quiet isSession (by simp) rfl (fun _ => rfl) trivial
  | set => exact exclusive.set isSession rfl
  | get =>
    exact exclusive.advance_quiet isSession (by simp) rfl id (exclusive.get_eq isSession rfl)
  | panic => cases own
  | signal positive | noSignal notPositive =>
    exact exclusive.advance_quiet isSession (by simp) rfl id (Option.some.inj own)
  | getChannel isState =>
    rw [exclusive.get_eq isSession rfl] at isState
    exact exclusive.advance_quiet isSession (by simp) rfl id
      ⟨own, (Option.some.inj isState).symm⟩
  | noChannel => exact exclusive.advance_quiet isSession (by simp) rfl id own
  | delete => exact exclusive.delete isSession rfl
  -- the other steps concern neither the store nor what was read from it
  | _ => exact exclusive.advance_quiet isSession (by simp) rfl id trivial

theorem meet {sender receiver value channel : SessionID}
    {sending listening : Session} (isSender : world.sessions[sender]? = some sending)
    (isReceiver : (world.put sender
      { sending with phase := .initial (.awaiting value) }).sessions[receiver]? = some listening)
    (sends : sending.phase = .initial (.sending value channel))
    (listens : listening.phase = .additional channel .listening) :
    Exclusive (world.meet sender receiver sending listening value channel) := by
  have own := exclusive.own sender sending isSender
  rw [sends] at own
  have told : Exclusive (world.put sender { sending with phase := .initial (.awaiting value) }) :=
    exclusive.put isSender (by rw [sends]; rfl) (fun settingUp => by cases settingUp) own.1
  exact told.put isReceiver (by rw [listens]; rfl) (fun settingUp => by cases settingUp) trivial

theorem step (alone : looksUpAlone world event = true) :
    Exclusive (Secondstar.step world event) := by
  cases steps_step world event with
  | idle same =>
    rw [same]
    exact exclusive
  | connect user _ isAfter =>
    rw [isAfter]
    exact exclusive.connect user
  | advance _ _ _ _ isSession transition isAfter =>
    rw [isAfter]
    exact exclusive.transition isSession transition alone
  | tell sender receiver sending listening value channel isEvent isSender isReceiver sends listens
      isAfter =>
      rw [isAfter]
      exact exclusive.meet isSender isReceiver sends listens

end

end Exclusive

/-- In every run in which sessions look up alone, at most one session of a user is active at
any time, and every handler that cleans up finds its own state. -/
theorem one_command_per_user {events : List Event}
    (alone : Meets step (fun world event => looksUpAlone world event = true) {} events) :
    OneCommand (run step {} events) ∧ CleansUpOwn (run step {} events) ∧
      (run step {} events).crashed = false := by
  have exclusive : Exclusive (run step {} events) :=
    run_invariant (fun _ _ holds alone => holds.step alone) exclusive_start alone
  refine ⟨?_, exclusive.own, exclusive.running⟩
  intro s t first second isFirst isSecond sameUser firstActive secondActive
  have cases : ∀ phase : Phase, phase.isActive = true →
      (phase.isSettingUp = true ∨ phase.isHolding = true) ∧ phase.isOccupying = true := by
    intro phase active
    rw [Phase.isActive, Bool.or_eq_true, beq_iff_eq] at active
    rcases active with rfl | holding
    · exact ⟨Or.inl rfl, rfl⟩
    · exact ⟨Or.inr holding, by rw [Phase.isOccupying, holding, Bool.or_true]⟩
  obtain ⟨firstIs, firstOccupies⟩ := cases first.phase firstActive
  obtain ⟨secondIs, secondOccupies⟩ := cases second.phase secondActive
  rcases firstIs with firstSetsUp | firstHolds
  · exact exclusive.alone s t first second isFirst isSecond sameUser firstSetsUp secondOccupies
  · rcases secondIs with secondSetsUp | secondHolds
    · exact (exclusive.alone t s second first isSecond isFirst sameUser.symm secondSetsUp
        firstOccupies).symm
    · exact exclusive.eq_of_holding isFirst isSecond sameUser firstHolds secondHolds

/-- Two sessions of a user one after the other, the second joining the first, and a third
session of another user. -/
theorem one_command_per_user_joined :
    OneCommand (run step {} [.connect "a", .connect "a", .connect "b", .proceed 0, .proceed 0,
      .proceed 2, .proceed 0, .proceed 1, .proceed 2, .exit 0, .proceed 0]) :=
  (one_command_per_user (by decide)).1

/-- Both sessions look up before either sets its state: two commands run, the first handler
finds the state of the second, and the second finds none. -/
theorem two_commands_started :
    ¬OneCommand (run step {} [.connect "a", .connect "a", .proceed 0, .proceed 1, .proceed 0,
      .proceed 1]) ∧
    ¬CleansUpOwn (run step {} [.connect "a", .connect "a", .proceed 0, .proceed 1, .proceed 0,
      .proceed 1, .proceed 0, .proceed 1, .exit 0, .proceed 0]) ∧
    (run step {} [.connect "a", .connect "a", .proceed 0, .proceed 1, .proceed 0, .proceed 1,
      .proceed 0, .proceed 1, .exit 0, .proceed 0, .proceed 0, .proceed 0, .proceed 0, .exit 1,
      .proceed 1, .proceed 1]).crashed = true := by
  refine ⟨?_, ?_, by decide⟩
  · intro one
    exact absurd (one 0 1 ⟨"a", .initial .started⟩ ⟨"a", .initial .started⟩ rfl rfl rfl rfl rfl)
      (by decide)
  · intro own
    have found := own 0 ⟨"a", .initial (.found (some 1))⟩ rfl
    cases found

end Tinkerbell.Secondstar
