import Tinkerbell.Secondstar.Exclusive

/-!
Owns: that the end of an initial session ends its additional sessions: no state
is stuck with the command finished, and when the handler has finished every
additional session has left and the entry is gone.

The handler sends one signal if the counter is positive and none otherwise. So
this holds in the runs in which just as many sessions are left to be told when
the counter is read, and from then on no session joins or leaves by itself.

The invariant says that counter and wait group are the tallies of the sessions
at certain stages, and how many sessions are left to be told at each stage of
the initial session.
-/

variable {test : AdditionalStage → Bool} {owner : Session}

namespace Tinkerbell.Secondstar

open TransitionSystem

/-! ### Tallies of additional sessions -/

def AdditionalStage.isCounted : AdditionalStage → Bool
  | .counted | .listening | .leaving _ => true
  | _ => false

def AdditionalStage.isAwaited : AdditionalStage → Bool
  | .listening | .leaving _ | .uncounted _ => true
  | _ => false

def AdditionalStage.isPending : AdditionalStage → Bool
  | .joining | .counted | .listening => true
  | _ => false

def AdditionalStage.isOpen : AdditionalStage → Bool
  | .left _ => false
  | _ => true

open AdditionalStage (isCounted isAwaited isPending isOpen)

def Phase.isAt (state : SessionID) (test : AdditionalStage → Bool) : Phase → Bool
  | .additional other stage => other == state && test stage
  | _ => false

def Phase.weight (state : SessionID) (test : AdditionalStage → Bool) (phase : Phase) : Nat :=
  if phase.isAt state test then 1 else 0

@[simp] theorem Phase.weight_connected (state : SessionID) (test : AdditionalStage → Bool) :
    Phase.connected.weight state test = 0 := rfl

@[simp] theorem Phase.weight_initial (state : SessionID) (test : AdditionalStage → Bool)
    (stage : InitialStage) : (Phase.initial stage).weight state test = 0 := rfl

@[simp] theorem Phase.weight_additional (state other : SessionID) (test : AdditionalStage → Bool)
    (stage : AdditionalStage) :
    (Phase.additional other stage).weight state test =
      if other = state then (test stage).toNat else 0 := by
  unfold Phase.weight Phase.isAt
  by_cases same : other = state
  · cases isTest : test stage <;> simp [isTest]
  · simp [same]

def World.tally (world : World) (state : SessionID) (test : AdditionalStage → Bool) : Nat :=
  world.sessions.countP fun session => session.phase.isAt state test

def Phase.hasLoaded : Phase → Bool
  | .initial (.signalling _) | .initial (.sending _ _) | .initial (.awaiting _) | .initial .removing
  | .initial .deactivating | .initial .closed => true
  | _ => false

def Phase.isFinishing : Phase → Bool
  | .initial .exited | .initial (.found _) | .initial (.signalling _) | .initial (.sending _ _)
  | .initial (.awaiting _) | .initial .removing | .initial .deactivating => true
  | _ => false

/-! ### A session that cannot end, and one that has -/

/-- Neither an initial session whose command has exited nor any of its additional sessions
can take a step, unless a client disconnects or types the escape sequence. -/
structure Stuck (world : World) (s : SessionID) : Prop where
  finishing : ∃ session, world.sessions[s]? = some session ∧ session.phase.isFinishing = true
  running : world.crashed = false
  blocked : ∀ (t : SessionID) (session : Session), world.sessions[t]? = some session →
    t = s ∨ session.phase.isAt s (fun _ => true) = true → handler world session = none
  unheard : ∀ (t : SessionID) (sender receiver : Session) (value channel : SessionID),
    world.sessions[s]? = some sender → world.sessions[t]? = some receiver →
    sender.phase = .initial (.sending value channel) →
    receiver.phase ≠ .additional channel .listening

/-- Every additional session has left, and the entry is gone. -/
structure Ended (world : World) (s : SessionID) : Prop where
  allLeft : ∀ (t : SessionID) (session : Session) (stage : AdditionalStage),
    world.sessions[t]? = some session → session.phase = .additional s stage →
    ∃ told, stage = .left told
  gone : ∀ user, world.globalState.get user ≠ some s

def World.notLoaded (world : World) (state : SessionID) : Bool :=
  (world.sessions[state]?).all fun owner => !owner.phase.hasLoaded

def World.signals (world : World) (state : SessionID) : Nat :=
  if 0 < (world.states state).additionalSessions then 1 else 0

def mayProceed (world : World) (session : Session) : Bool :=
  match session.phase with
  | .connected => (world.globalState.get session.user).all world.notLoaded
  | .initial (.found (some value)) =>
    world.tally value isPending == world.signals value
  | _ => true

def mayLeave (world : World) (session : Session) : Bool :=
  match session.phase with
  | .additional state .listening => world.notLoaded state
  | _ => true

/-- Sessions look up alone and not after the counter is read, as many sessions are to be told
as signals are sent, and none leaves by itself after the counter is read. -/
def orderly (world : World) (event : Event) : Bool :=
  looksUpAlone world event &&
    match event with
    | .proceed s => (world.sessions[s]?).all (mayProceed world)
    | .leave s => (world.sessions[s]?).all (mayLeave world)
    | _ => true

/-! ### What is left to do -/

def Phase.rank : Phase → Nat
  | .connected => 13
  | .initial .starting => 12
  | .initial .started => 11
  | .initial .serving => 10
  | .initial .exited => 9
  | .initial (.found _) => 8
  | .initial (.signalling _) => 7
  | .initial (.sending _ _) => 6
  | .initial (.awaiting _) => 5
  | .initial .removing => 4
  | .initial .deactivating => 3
  | .initial .closed | .initial .refused | .initial .panicked => 0
  | .additional _ .joining => 6
  | .additional _ .counted => 5
  | .additional _ .listening => 4
  | .additional _ (.leaving _) => 3
  | .additional _ (.uncounted _) => 2
  | .additional _ (.left _) => 0

def remainingOf : List Session → Nat
  | [] => 0
  | session :: rest => session.phase.rank + remainingOf rest

def World.remaining (world : World) : Nat := remainingOf world.sessions

variable {user : String} {before after : Phase} {state : SessionID}

private theorem rank_of_transition {world : World} {s : SessionID} {event : Event} {effect : Effect}
    (transition : Transition world s user event before after effect) :
    after.rank < before.rank := by
  cases transition <;> simp [Phase.rank]

theorem remainingOf_set {sessions : List Session} {s : Nat} {old new : Session}
    (isSession : sessions[s]? = some old) :
    remainingOf (sessions.set s new) + old.phase.rank = remainingOf sessions + new.phase.rank := by
  induction sessions generalizing s with
  | nil => cases isSession
  | cons _ _ ih =>
    cases s with
    | zero =>
      cases isSession
      rw [List.set_cons_zero, remainingOf, remainingOf]
      omega
    | succ =>
      have later := ih (List.getElem?_cons_succ ▸ isSession)
      rw [List.set_cons_succ, remainingOf, remainingOf]
      omega

private theorem remaining_step (world : World) {event : Event}
    (noConnection : ∀ user, event ≠ .connect user) :
    step world event = world ∨ (step world event).remaining < world.remaining := by
  cases steps_step world event with
  | idle same => exact Or.inl same
  | connect user isEvent => exact absurd isEvent (noConnection user)
  | advance _ session phase _ isSession transition isAfter =>
    have lower := rank_of_transition transition
    have total := @remainingOf_set _ _ _ { session with phase } isSession
    rw [isAfter, World.remaining, sessions_advance, World.remaining]
    dsimp only at total
    omega
  | tell sender receiver sending listening value channel isEvent isSender isReceiver sends listens
      isAfter =>
      have totalSender := @remainingOf_set _ _ _
        { sending with phase := .initial (.awaiting value) }
        isSender
      have totalReceiver := @remainingOf_set _ _ _
        { listening with phase := .additional channel (.leaving true) } isReceiver
      rw [sends] at totalSender
      rw [listens] at totalReceiver
      rw [isAfter, World.remaining, World.remaining]
      simp only [World.meet, World.put, Phase.rank] at totalSender totalReceiver ⊢
      omega

/-! ### How a step changes the tallies -/

section Tally

variable {world : World} {s : SessionID} {session : Session} {phase : Phase} {effect : Effect}
  (isSession : world.sessions[s]? = some session)

include isSession

theorem tally_pos (isAt : session.phase.isAt state test = true) :
    0 < world.tally state test :=
  List.countP_pos_iff.mpr ⟨session, List.mem_of_getElem? isSession, isAt⟩

theorem countP_set_of_some (test : Session → Bool) (new : Session) :
    (world.sessions.set s new).countP test + (if test session then 1 else 0) =
      world.sessions.countP test + (if test new then 1 else 0) := by
  obtain ⟨within, isAt⟩ := List.getElem?_eq_some_iff.mp isSession
  have positive : (if test session then 1 else 0) ≤ world.sessions.countP test := by
    split
    · next passes =>
      exact List.countP_pos_iff.mpr ⟨session, List.mem_of_getElem? isSession, passes⟩
    · exact Nat.zero_le _
  rw [List.countP_set within, isAt]
  omega

theorem tally_put (state : SessionID) (test : AdditionalStage → Bool) :
    (world.put s { session with phase }).tally state test +
        session.phase.weight state test =
      world.tally state test + phase.weight state test :=
  countP_set_of_some isSession (fun session => session.phase.isAt state test)
    { session with phase }

theorem tally_advance (state : SessionID) (test : AdditionalStage → Bool) :
    (world.advance s session phase effect).tally state test +
        session.phase.weight state test =
      world.tally state test + phase.weight state test := by
  unfold World.tally
  rw [sessions_advance]
  exact countP_set_of_some isSession (fun session => session.phase.isAt state test)
    { session with phase }

end Tally

/-! ### The counters are tallies -/

structure Tallied (world : World) : Prop where
  counter : ∀ state,
    (world.states state).additionalSessions = world.tally state isCounted
  waitGroup : ∀ state, (world.states state).wg = world.tally state isAwaited

namespace Tallied

variable {world : World} {s : SessionID} {session : Session} {phase : Phase} {effect : Effect}

section

variable (tallied : Tallied world)
include tallied

theorem advance (isSession : world.sessions[s]? = some session)
    (counter : ∀ state,
      ((world.advance s session phase effect).states state).additionalSessions +
          session.phase.weight state isCounted =
        (world.states state).additionalSessions + phase.weight state isCounted)
    (waitGroup : ∀ state,
      ((world.advance s session phase effect).states state).wg +
          session.phase.weight state isAwaited =
        (world.states state).wg + phase.weight state isAwaited) :
    Tallied (world.advance s session phase effect) where
  counter := by
    intro state
    have changes := counter state
    have total := @tally_advance _ _ _ phase effect isSession state isCounted
    rw [tallied.counter] at changes
    omega
  waitGroup := by
    intro state
    have changes := waitGroup state
    have total := @tally_advance _ _ _ phase effect isSession state isAwaited
    rw [tallied.waitGroup] at changes
    omega

theorem advance_still (isSession : world.sessions[s]? = some session)
    (sameStates : (world.advance s session phase effect).states = world.states)
    (sameCounted : ∀ state, session.phase.weight state isCounted = phase.weight state isCounted)
    (sameAwaited : ∀ state, session.phase.weight state isAwaited = phase.weight state isAwaited) :
    Tallied (world.advance s session phase effect) := by
  apply tallied.advance isSession
  · intro state
    rw [sameStates, sameCounted]
  · intro state
    rw [sameStates, sameAwaited]

theorem advance_stage
    {before after : AdditionalStage} (change : State → State)
    (isSession : world.sessions[s]? = some ⟨user, .additional state before⟩)
    (isStates : (world.advance s ⟨user, .additional state before⟩ (.additional state after)
      effect).states = Function.update world.states state (change (world.states state)))
    (counter : ∀ old : State,
      (change old).additionalSessions + before.isCounted.toNat =
        old.additionalSessions + after.isCounted.toNat)
    (waitGroup : ∀ old : State, before.isAwaited.toNat ≤ old.wg →
      (change old).wg + before.isAwaited.toNat = old.wg + after.isAwaited.toNat) :
    Tallied (world.advance s ⟨user, .additional state before⟩
      (.additional state after) effect) := by
  apply tallied.advance isSession
  · intro other
    rw [isStates, Function.update_apply, Phase.weight_additional, Phase.weight_additional]
    by_cases same : other = state
    · subst same
      rw [if_pos rfl, if_pos rfl, if_pos rfl]
      exact counter _
    · rw [if_neg same, if_neg (Ne.symm same), if_neg (Ne.symm same)]
  · intro other
    rw [isStates, Function.update_apply, Phase.weight_additional, Phase.weight_additional]
    by_cases same : other = state
    · subst same
      rw [if_pos rfl, if_pos rfl, if_pos rfl]
      apply waitGroup
      -- The session itself is one of those that are waited for.
      rw [tallied.waitGroup]
      cases isAwaited : before.isAwaited with
      | false => exact Nat.zero_le _
      | true => exact tally_pos isSession (by simp [Phase.isAt, isAwaited])
    · rw [if_neg same, if_neg (Ne.symm same), if_neg (Ne.symm same)]

theorem transition {event : Event}
    (isSession : world.sessions[s]? = some session)
    (transition : Transition world s session.user event session.phase phase effect)
    (unknown : session.phase = .initial .started → ∀ test, world.tally s test = 0) :
    Tallied (world.advance s session phase effect) := by
  obtain ⟨_, _⟩ := session
  cases transition with
  | set =>
    -- A new state takes the place of one that no session has found.
    have fresh : world.states s = {} := by
      have noneCounted := tallied.counter s
      have noneAwaited := tallied.waitGroup s
      generalize world.states s = old at noneCounted noneAwaited
      cases old
      simp_all
    apply tallied.advance_still isSession _ (by simp) (by simp)
    funext state
    show Function.update world.states s {} state = world.states state
    rw [← fresh, Function.update_eq_self]
  | count =>
    exact tallied.advance_stage (fun old =>
      { old with additionalSessions := old.additionalSessions + 1 }) isSession rfl
      (by simp [isCounted]) (by simp [isAwaited])
  | join =>
    exact tallied.advance_stage (fun old => { old with wg := old.wg + 1 }) isSession rfl
      (by simp [isCounted]) (by simp [isAwaited])
  | uncount =>
    exact tallied.advance_stage (fun old =>
      { old with additionalSessions := old.additionalSessions + -1 }) isSession rfl
      (fun old => by
        simp only [isCounted, Bool.toNat_true, Bool.toNat_false]
        omega)
      (by simp [isAwaited])
  | done =>
    exact tallied.advance_stage (fun old => { old with wg := old.wg - 1 }) isSession rfl
      (by simp [isCounted])
      (by
        intro old positive
        simp only [isAwaited, Bool.toNat_true, Bool.toNat_false] at positive ⊢
        omega)
  | lookUpState isState | leave =>
    exact tallied.advance_still isSession rfl (by simp [isCounted])
      (by simp [isAwaited])
  | _ => exact tallied.advance_still isSession rfl (by simp) (by simp)

end

end Tallied

/-! ### How many sessions are left to be told -/

def Phase.isPublished : Phase → Bool
  | .initial .starting | .initial .started | .initial .refused => false
  | .initial _ => true
  | _ => false

private theorem isPublished_of_isHolding {phase : Phase} (holding : phase.isHolding = true) :
    phase.isPublished = true := by
  revert holding
  unfold Phase.isHolding
  split <;> simp [Phase.isPublished]

theorem isPublished_of_transition {world : World} {s : SessionID} {event : Event} {effect : Effect}
    (transition : Transition world s user event before after effect)
    (published : before.isPublished = true) : after.isPublished = true := by
  cases transition <;> simp [Phase.isPublished] at published ⊢

def Settled (world : World) (s : SessionID) : Phase → Prop
  | .initial (.signalling _) | .initial (.sending _ _) => world.tally s isPending = 1
  | .initial (.awaiting _) => world.tally s isPending = 0
  | .initial .removing | .initial .deactivating | .initial .closed => world.tally s isOpen = 0
  | _ => True

theorem settled_of_not_hasLoaded {world : World} {s : SessionID} {phase : Phase}
    (notLoaded : phase.hasLoaded = false) : Settled world s phase := by
  revert notLoaded
  unfold Phase.hasLoaded
  split <;> simp_all [Settled]

theorem Settled.mono {world after : World} {s : SessionID} {phase : Phase}
    (settled : Settled world s phase)
    (samePending : after.tally s isPending = world.tally s isPending)
    (lessOpen : after.tally s isOpen ≤ world.tally s isOpen) :
    Settled after s phase := by
  revert settled
  unfold Settled
  split
  · exact samePending.trans
  · exact samePending.trans
  · exact samePending.trans
  · intro none
    omega
  · intro none
    omega
  · intro none
    omega
  · exact id

theorem tally_eq_zero_iff {world : World} :
    world.tally state test = 0 ↔ ∀ (t : SessionID) (session : Session),
      world.sessions[t]? = some session → session.phase.isAt state test = false := by
  unfold World.tally
  rw [List.countP_eq_zero]
  constructor
  · intro none t session isSession
    exact Bool.eq_false_iff.mpr (none session (List.mem_of_getElem? isSession))
  · intro none session member
    obtain ⟨t, isSession⟩ := List.mem_iff_getElem?.mp member
    exact Bool.eq_false_iff.mp (none t session isSession)

private theorem tally_isOpen_eq_zero {world : World} (nonePending : world.tally state isPending = 0)
    (noneAwaited : world.tally state isAwaited = 0) :
    world.tally state isOpen = 0 := by
  rw [tally_eq_zero_iff] at nonePending noneAwaited ⊢
  intro t session isSession
  have notPending := nonePending t session isSession
  have notAwaited := noneAwaited t session isSession
  revert notPending notAwaited
  cases session.phase with
  | connected | initial stage => simp [Phase.isAt]
  | additional _ stage =>
    cases stage <;> simp [Phase.isAt, isPending, isAwaited, isOpen]

structure Closing (world : World) : Prop extends Exclusive world, Tallied world where
  known : ∀ (t : SessionID) (session : Session) (state : SessionID) (stage : AdditionalStage),
    world.sessions[t]? = some session → session.phase = .additional state stage →
    ∃ owner : Session, world.sessions[state]? = some owner ∧ owner.phase.isPublished = true
  settled : ∀ (t : SessionID) (session : Session), world.sessions[t]? = some session →
    Settled world t session.phase

private theorem closing_start : Closing {} where
  toExclusive := exclusive_start
  counter := fun _ => rfl
  waitGroup := fun _ => rfl
  known := by
    intro t session state stage isSession
    cases isSession
  settled := by
    intro t session isSession
    cases isSession

namespace Closing

variable {world : World} {s : SessionID} {session : Session} {phase : Phase} {effect : Effect}
  {event : Event}

theorem unknown (closing : Closing world) (isSession : world.sessions[s]? = some session)
    (isStarted : session.phase = .initial .started) (test : AdditionalStage → Bool) :
    world.tally s test = 0 := by
  rw [tally_eq_zero_iff]
  intro t other isOther
  cases isPhase : other.phase with
  | connected | initial stage => rfl
  | additional state stage =>
    unfold Phase.isAt
    rw [Bool.and_eq_false_iff, beq_eq_false_iff_ne]
    left
    rintro rfl
    obtain ⟨_, isOwner, published⟩ := closing.known t other state stage isOther isPhase
    rw [isSession] at isOwner
    cases isOwner
    rw [isStarted] at published
    cases published

private theorem published_advance (isSession : world.sessions[s]? = some session)
    (transition : Transition world s session.user event session.phase phase effect)
    (isOwner : world.sessions[state]? = some owner)
    (published : owner.phase.isPublished = true) :
    ∃ owner : Session, (world.advance s session phase effect).sessions[state]? = some owner ∧
      owner.phase.isPublished = true := by
  rw [sessions_advance, getElem?_set_of_some isSession]
  split
  · next same =>
    subst same
    rw [isSession] at isOwner
    cases isOwner
    exact ⟨_, rfl, isPublished_of_transition transition published⟩
  · exact ⟨owner, isOwner, published⟩

theorem known_advance (closing : Closing world) (isSession : world.sessions[s]? = some session)
    (transition : Transition world s session.user event session.phase phase effect) :
    ∀ (t : SessionID) (other : Session) (state : SessionID) (stage : AdditionalStage),
      (world.advance s session phase effect).sessions[t]? = some other →
      other.phase = .additional state stage →
      ∃ owner : Session, (world.advance s session phase effect).sessions[state]? = some owner ∧
        owner.phase.isPublished = true := by
  intro t other state stage isOther isPhase
  have found : ∃ owner : Session, world.sessions[state]? = some owner ∧
      owner.phase.isPublished = true := by
    rw [sessions_advance, getElem?_set_of_some isSession] at isOther
    split at isOther
    · cases isOther
      have known := closing.known s session state
      obtain ⟨user, _⟩ := session
      cases transition with
      | lookUpState isState =>
        cases isPhase
        obtain ⟨owner, isOwner, _, holding⟩ := (closing.stored user state).mp isState
        exact ⟨owner, isOwner, isPublished_of_isHolding holding⟩
      | count | join | leave | uncount | done => cases isPhase; exact known _ isSession rfl
      | _ => cases isPhase
    · exact closing.known t other state stage isOther isPhase
  obtain ⟨_, isOwner, published⟩ := found
  exact published_advance isSession transition isOwner published

end Closing

/-! ### Orderly steps -/

section Orderly

variable {world : World} {s : SessionID} {session : Session} {phase : Phase} {effect : Effect}
  {event : Event} (isSession : world.sessions[s]? = some session)

private theorem looksUpAlone_of_orderly (isOrderly : orderly world event = true) :
    looksUpAlone world event = true :=
  (Bool.and_eq_true_iff.mp isOrderly).1

include isSession

theorem mayProceed_of_orderly (isOrderly : orderly world (.proceed s) = true) :
    mayProceed world session = true := by
  simpa [orderly, isSession] using (Bool.and_eq_true_iff.mp isOrderly).2

private theorem mayLeave_of_orderly (isOrderly : orderly world (.leave s) = true) :
    mayLeave world session = true := by
  simpa [orderly, isSession] using (Bool.and_eq_true_iff.mp isOrderly).2

private theorem hasLoaded_of_notLoaded (notLoaded : world.notLoaded s = true) :
    session.phase.hasLoaded = false := by
  simpa [World.notLoaded, isSession] using notLoaded

/-- An orderly step neither adds to the sessions of a state whose counter has been read, nor
takes away from those that are left to be told. -/
theorem weights_of_transition
    (transition : Transition world s session.user event session.phase phase effect)
    (isOrderly : orderly world event = true) {t : SessionID}
    (isOwner : world.sessions[t]? = some owner) (loaded : owner.phase.hasLoaded = true) :
    phase.weight t isPending = session.phase.weight t isPending ∧
      phase.weight t isOpen ≤ session.phase.weight t isOpen := by
  have other : ∀ {state : SessionID}, world.notLoaded state = true → state ≠ t := by
    rintro state notLoaded rfl
    rw [hasLoaded_of_notLoaded isOwner notLoaded] at loaded
    cases loaded
  obtain ⟨_, _⟩ := session
  cases transition with
  | lookUpState isState =>
    have notLoaded := mayProceed_of_orderly isSession isOrderly
    simp only [mayProceed, isState, Option.all_some] at notLoaded
    simp [other notLoaded]
  | leave =>
    have notLoaded := mayLeave_of_orderly isSession isOrderly
    simp [other notLoaded]
  | count | join | uncount | done => simp [isPending, isOpen]
  | _ => simp

end Orderly

namespace Closing

variable {world : World} {s : SessionID} {session : Session} {phase : Phase} {effect : Effect}
  {event : Event}

private theorem weight_of_loading (transition : Transition world s user event before phase effect)
    (loaded : phase.hasLoaded = true) (state : SessionID) (test : AdditionalStage → Bool) :
    before.weight state test = phase.weight state test := by
  cases transition <;> first | rfl | cases loaded

theorem settled_self (closing : Closing world) (isSession : world.sessions[s]? = some session)
    (transition : Transition world s session.user event session.phase phase effect)
    (isOrderly : orderly world event = true) : Settled world s phase := by
  have own := closing.own s session isSession
  have settled := closing.settled s session isSession
  obtain ⟨_, _⟩ := session
  cases transition with
  | @signal value positive =>
    cases (Option.some.inj own : value = s)
    have enough := mayProceed_of_orderly isSession isOrderly
    simp only [mayProceed, World.signals, if_pos positive, beq_iff_eq] at enough
    exact enough
  | @noSignal value notPositive =>
    cases (Option.some.inj own : value = s)
    have enough := mayProceed_of_orderly isSession isOrderly
    simp only [mayProceed, World.signals, if_neg notPositive, beq_iff_eq] at enough
    exact enough
  | getChannel => exact settled
  | noChannel nothing =>
    rw [closing.get_eq isSession rfl] at nothing
    cases nothing
  | @waited value isZero =>
    cases (own : value = s)
    rw [closing.waitGroup] at isZero
    exact tally_isOpen_eq_zero settled isZero
  | delete | deactivated => exact settled
  | _ => trivial

theorem transition (closing : Closing world) (isSession : world.sessions[s]? = some session)
    (transition : Transition world s session.user event session.phase phase effect)
    (isOrderly : orderly world event = true) : Closing (world.advance s session phase effect) where
  toExclusive := closing.toExclusive.transition isSession transition
    (looksUpAlone_of_orderly isOrderly)
  toTallied := closing.toTallied.transition isSession transition (closing.unknown isSession)
  known := closing.known_advance isSession transition
  settled := by
    intro t other isOther
    have pending := @tally_advance _ _ _ phase effect isSession t isPending
    have stillOpen := @tally_advance _ _ _ phase effect isSession t isOpen
    rw [sessions_advance, getElem?_set_of_some isSession] at isOther
    split at isOther
    · next same =>
      subst same
      cases isOther
      have settled := closing.settled_self isSession transition isOrderly
      by_cases loaded : phase.hasLoaded = true
      · rw [weight_of_loading transition loaded] at pending stillOpen
        exact settled.mono (by omega) (by omega)
      · exact settled_of_not_hasLoaded (Bool.eq_false_iff.mpr loaded)
    · have settled := closing.settled t other isOther
      by_cases loaded : other.phase.hasLoaded = true
      · have weights := weights_of_transition isSession transition isOrderly isOther loaded
        exact settled.mono (by omega) (by omega)
      · exact settled_of_not_hasLoaded (Bool.eq_false_iff.mpr loaded)

theorem tally_connect (user : String) (state : SessionID) (test : AdditionalStage → Bool) :
    World.tally { world with sessions := world.sessions ++ [{ user }] } state test =
      world.tally state test := by
  unfold World.tally
  rw [List.countP_append]
  rfl

theorem connect (closing : Closing world) (user : String) :
    Closing { world with sessions := world.sessions ++ [{ user }] } where
  toExclusive := closing.toExclusive.connect user
  counter := fun state => (closing.counter state).trans (by rw [tally_connect])
  waitGroup := fun state => (closing.waitGroup state).trans (tally_connect user state _).symm
  known := by
    intro t session state stage isSession isPhase
    rcases getElem?_connect isSession with isOld | ⟨_, rfl⟩
    · obtain ⟨owner, isOwner, published⟩ := closing.known t session state stage isOld isPhase
      obtain ⟨within, _⟩ := List.getElem?_eq_some_iff.mp isOwner
      exact ⟨owner, (List.getElem?_append_left within).trans isOwner, published⟩
    · cases isPhase
  settled := by
    intro t session isSession
    rcases getElem?_connect isSession with isOld | ⟨_, rfl⟩
    · exact (closing.settled t session isOld).mono (tally_connect user t _)
        (Nat.le_of_eq (tally_connect user t _))
    · trivial

section Meet

variable {sender receiver value channel : SessionID} {sending listening : Session}
  (isSender : world.sessions[sender]? = some sending)
  (isReceiver : (world.put sender
    { sending with phase := .initial (.awaiting value) }).sessions[receiver]? = some listening)
  (sends : sending.phase = .initial (.sending value channel))
  (listens : listening.phase = .additional channel .listening)

include isSender isReceiver

theorem getElem?_meet (t : SessionID) :
    (world.meet sender receiver sending listening value channel).sessions[t]? =
      if receiver = t then some { listening with phase := .additional channel (.leaving true) }
      else if sender = t then some { sending with phase := .initial (.awaiting value) }
      else world.sessions[t]? := by
  have isSet := @getElem?_set_of_some _
    { listening with phase := .additional channel (.leaving true) } _ t _ isReceiver
  refine isSet.trans ?_
  rw [World.put, getElem?_set_of_some isSender]

include listens

theorem receiver_before : receiver ≠ sender ∧ world.sessions[receiver]? = some listening := by
  rw [World.put, getElem?_set_of_some isSender] at isReceiver
  split at isReceiver
  · rw [← Option.some.inj isReceiver] at listens
    cases listens
  · next different => exact ⟨Ne.symm different, isReceiver⟩

include sends

theorem tally_meet (state : SessionID) (test : AdditionalStage → Bool) :
    (world.meet sender receiver sending listening value channel).tally state test +
        (if channel = state then (test .listening).toNat else 0) =
      world.tally state test + (if channel = state then (test (.leaving true)).toNat else 0) := by
  have first := @tally_put _ _ _ (.initial (.awaiting value)) isSender state test
  have second := @tally_put _ _ _ (.additional channel (.leaving true)) isReceiver state test
  rw [sends, Phase.weight_initial, Phase.weight_initial] at first
  rw [listens, Phase.weight_additional, Phase.weight_additional] at second
  unfold World.meet
  omega

private theorem known_meet (closing : Closing world) :
    ∀ (t : SessionID) (session : Session) (state : SessionID) (stage : AdditionalStage),
      (world.meet sender receiver sending listening value channel).sessions[t]? = some session →
      session.phase = .additional state stage →
      ∃ owner : Session,
        (world.meet sender receiver sending listening value channel).sessions[state]? = some owner ∧
        owner.phase.isPublished = true := by
  intro t session state stage isOther isPhase
  have own := closing.own sender sending isSender
  rw [sends] at own
  cases (own.2 : channel = sender)
  obtain ⟨different, isListening⟩ := receiver_before isSender isReceiver listens
  rw [getElem?_meet isSender isReceiver] at isOther
  rw [getElem?_meet isSender isReceiver]
  split at isOther
  · cases isOther
    cases isPhase
    rw [if_neg different, if_pos rfl]
    exact ⟨_, rfl, rfl⟩
  · split at isOther
    · cases isOther
      cases isPhase
    · obtain ⟨owner, isOwner, published⟩ := closing.known t session state stage isOther isPhase
      split
      · next same =>
        -- an additional session owns no state
        rw [← same, isListening] at isOwner
        rw [← Option.some.inj isOwner, listens] at published
        cases published
      · split
        · exact ⟨_, rfl, rfl⟩
        · exact ⟨owner, isOwner, published⟩

theorem meet (closing : Closing world) :
    Closing (world.meet sender receiver sending listening value channel) where
  toExclusive := closing.toExclusive.meet isSender isReceiver sends listens
  counter := by
    intro state
    have total := tally_meet isSender isReceiver sends listens state isCounted
    refine (closing.counter state).trans (congrArg Nat.cast ?_)
    exact (Nat.add_right_cancel total).symm
  waitGroup := by
    intro state
    have total := tally_meet isSender isReceiver sends listens state isAwaited
    exact (closing.waitGroup state).trans (Nat.add_right_cancel total).symm
  known := known_meet isSender isReceiver sends listens closing
  settled := by
    intro t session isOther
    have own := closing.own sender sending isSender
    have settled := closing.settled sender sending isSender
    rw [sends] at own settled
    cases (own.2 : channel = sender)
    have pending := tally_meet isSender isReceiver sends listens t isPending
    have stillOpen := tally_meet isSender isReceiver sends listens t isOpen
    simp only [isPending, isOpen] at pending stillOpen
    rw [getElem?_meet isSender isReceiver] at isOther
    split at isOther
    · cases isOther
      trivial
    · split at isOther
      · next same =>
        cases isOther
        subst same
        have one : world.tally sender isPending = 1 := settled
        rw [one] at pending
        show World.tally _ sender isPending = 0
        simpa using pending
      · next different =>
        exact (closing.settled t session isOther).mono (by simpa [different] using pending)
          (Nat.le_of_eq (by simpa using stillOpen))

end Meet

theorem step (closing : Closing world) (isOrderly : orderly world event = true) :
    Closing (Secondstar.step world event) := by
  cases steps_step world event with
  | idle same =>
    rw [same]
    exact closing
  | connect user _ isAfter =>
    rw [isAfter]
    exact closing.connect user
  | advance _ _ _ _ isSession transition isAfter =>
    rw [isAfter]
    exact closing.transition isSession transition isOrderly
  | tell sender receiver sending listening value channel isEvent isSender isReceiver sends listens
      isAfter =>
      rw [isAfter]
      exact closing.meet isSender isReceiver sends listens

/-! ### No state is stuck -/

theorem exists_of_tally (positive : 0 < world.tally state test) :
    ∃ (t : SessionID) (session : Session) (stage : AdditionalStage),
      world.sessions[t]? = some session ∧ session.phase = .additional state stage ∧
      test stage = true := by
  obtain ⟨session, member, isAt⟩ := List.countP_pos_iff.mp positive
  obtain ⟨t, isSession⟩ := List.mem_iff_getElem?.mp member
  cases isPhase : session.phase with
  | connected | initial stage =>
    rw [isPhase] at isAt
    cases isAt
  | additional _ stage =>
    rw [isPhase, Phase.isAt, Bool.and_eq_true, beq_iff_eq] at isAt
    exact ⟨t, session, stage, isSession, by rw [isPhase, isAt.1], isAt.2⟩

theorem stage_of_stuck (stuck : Stuck world s) {t : SessionID} {other : Session}
    {stage : AdditionalStage} (isOther : world.sessions[t]? = some other)
    (isPhase : other.phase = .additional s stage) :
    stage = .listening ∨ ∃ told, stage = .left told := by
  have blocked := stuck.blocked t other isOther (Or.inr (by rw [isPhase]; simp [Phase.isAt]))
  rw [handler, isPhase] at blocked
  cases stage with
  | listening => exact Or.inl rfl
  | left told => exact Or.inr ⟨told, rfl⟩
  | _ => cases blocked

private theorem not_stuck (closing : Closing world) : ¬Stuck world s := by
  intro stuck
  obtain ⟨session, isSession, finishing⟩ := stuck.finishing
  have blocked := stuck.blocked s session isSession (Or.inl rfl)
  have own := closing.own s session isSession
  have settled := closing.settled s session isSession
  obtain ⟨_, _⟩ := session
  rw [handler] at blocked
  dsimp only at blocked finishing own settled
  unfold Phase.isFinishing at finishing
  split at finishing
  · cases blocked
  · next value => cases value <;> cases blocked
  · next _ =>
    unfold initialSession at blocked
    dsimp only at blocked
    split at blocked <;> cases blocked
  · next value channel =>
    -- the one session that is left to be told listens
    cases (own.2 : channel = s)
    have one : world.tally s isPending = 1 := settled
    obtain ⟨t, other, _, isOther, isPhase, pending⟩ :=
      exists_of_tally (one ▸ Nat.one_pos : 0 < world.tally s isPending)
    rcases stage_of_stuck stuck isOther isPhase with rfl | ⟨told, rfl⟩
    · exact stuck.unheard t _ other value s isSession isOther rfl isPhase
    · cases pending
  · next value =>
    -- a session that is waited for is on its way out
    cases (own : value = s)
    have noneLeft : world.tally s isPending = 0 := settled
    by_cases isZero : (world.states s).wg = 0
    · simp only [initialSession, if_pos isZero] at blocked
      cases blocked
    · rw [closing.waitGroup] at isZero
      obtain ⟨_, other, _, isOther, isPhase, awaited⟩ :=
        exists_of_tally (Nat.pos_of_ne_zero isZero)
      rcases stage_of_stuck stuck isOther isPhase with rfl | ⟨told, rfl⟩
      · have pending := tally_pos isOther
          (show other.phase.isAt s isPending = true by
            rw [isPhase]; simp [Phase.isAt, isPending])
        omega
      · cases awaited
  · cases blocked
  · cases blocked
  · cases finishing

theorem ended (closing : Closing world) (isSession : world.sessions[s]? = some session)
    (isClosed : session.phase = .initial .closed) : Ended world s where
  allLeft := by
    have settled := closing.settled s session isSession
    rw [isClosed] at settled
    intro t other stage isOther isPhase
    have notOpen := tally_eq_zero_iff.mp settled t other isOther
    rw [isPhase] at notOpen
    cases stage with
    | left told => exact ⟨told, rfl⟩
    | _ => simp [Phase.isAt, isOpen] at notOpen
  gone := by
    intro user isStored
    obtain ⟨_, isHolder, _, holding⟩ := (closing.stored user s).mp isStored
    rw [isSession] at isHolder
    rw [← Option.some.inj isHolder, isClosed] at holding
    cases holding

end Closing

/-- In every orderly run no state is stuck with the command of an initial session finished,
only finitely many steps are left unless new sessions connect, and when a handler has finished
every additional session has left and the entry is gone. -/
theorem closing_ends_sessions {events : List Event}
    (isOrderly : Meets step (fun world event => orderly world event = true) {} events) :
    (∀ s, ¬Stuck (run step {} events) s) ∧
    (∀ event, (∀ user, event ≠ .connect user) →
      step (run step {} events) event = run step {} events ∨
        (step (run step {} events) event).remaining < (run step {} events).remaining) ∧
    (∀ (s : SessionID) (session : Session), (run step {} events).sessions[s]? = some session →
      session.phase = .initial .closed → Ended (run step {} events) s) := by
  have closing : Closing (run step {} events) :=
    run_invariant (fun _ _ holds isOrderly => holds.step isOrderly) closing_start isOrderly
  exact ⟨fun _ => closing.not_stuck, fun _ => remaining_step _,
    fun _ _ isSession isClosed => closing.ended isSession isClosed⟩

/-- One additional session is told, and both handlers finish. -/
theorem closing_ends_sessions_one :
    Ended (run step {} [.connect "a", .connect "a", .proceed 0, .proceed 0, .proceed 0, .proceed 1,
      .proceed 1, .proceed 1, .exit 0, .proceed 0, .proceed 0, .proceed 0, .tell 0 1, .proceed 1,
      .proceed 1, .proceed 0, .proceed 0, .proceed 0]) 0 :=
  (closing_ends_sessions (by decide)).2.2 0 ⟨"a", .initial .closed⟩ rfl rfl

theorem stuck_of_all {world : World} {s : SessionID} {session : Session}
    (isSession : world.sessions[s]? = some session) (finishing : session.phase.isFinishing = true)
    (running : world.crashed = false)
    (blocked : (world.sessions.all fun other => (handler world other).isNone) = true)
    (unheard : (world.sessions.all fun other =>
      match session.phase with
      | .initial (.sending _ channel) => other.phase != .additional channel .listening
      | _ => true) = true) : Stuck world s where
  finishing := ⟨session, isSession, finishing⟩
  running := running
  blocked := by
    intro t other isOther _
    exact Option.isNone_iff_eq_none.mp
      (List.all_eq_true.mp blocked other (List.mem_of_getElem? isOther))
  unheard := by
    intro t sender receiver value channel isSender isReceiver sends
    have notListening := List.all_eq_true.mp unheard receiver (List.mem_of_getElem? isReceiver)
    rw [isSession] at isSender
    rw [Option.some.inj isSender, sends] at notListening
    exact bne_iff_ne.mp notListening

/-- With two additional sessions only one is told, and the handler waits for the other. One
additional session that disconnects after the counter is read leaves the handler without a
receiver for its signal. -/
theorem handler_waits_for_ever :
    Stuck (run step {} [.connect "a", .connect "a", .connect "a", .proceed 0, .proceed 0,
      .proceed 0, .proceed 1, .proceed 1, .proceed 1, .proceed 2, .proceed 2, .proceed 2, .exit 0,
      .proceed 0, .proceed 0, .proceed 0, .tell 0 1, .proceed 1, .proceed 1]) 0 ∧
    Stuck (run step {} [.connect "a", .connect "a", .proceed 0, .proceed 0, .proceed 0, .proceed 1,
      .proceed 1, .proceed 1, .exit 0, .proceed 0, .proceed 0, .leave 1, .proceed 1, .proceed 1,
      .proceed 0]) 0 :=
  ⟨stuck_of_all (show _ = some ⟨"a", .initial (.awaiting 0)⟩ from rfl) rfl rfl (by decide)
      (by decide),
    stuck_of_all (show _ = some ⟨"a", .initial (.sending 0 0)⟩ from rfl) rfl rfl (by decide)
      (by decide)⟩

end Tinkerbell.Secondstar
