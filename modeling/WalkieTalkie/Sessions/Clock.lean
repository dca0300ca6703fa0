import WalkieTalkie.Sessions.System

/-! One supervisor against a clock. Its steps are those of `runSupervisor`; the clock moves between
them, the timer of the select is begun anew with every iteration, and the receiver of the bus counts
the messages of all sessions, those of the supervisor itself included. `written` and `completed` count
the turns that were written to the harness and the completions that were handled, `marks` keeps when
the supervisor was started, was given an event, fed a turn or sent an idle notice. Time is counted in
nanoseconds. -/

namespace WalkieTalkie.Sessions.Clock

open Proto Store Lib
open Orchestration.Clients (Sorting)
open Orchestration.Requests (Outgoing)

def poll : ℕ := 3000000000

inductive Mark
  | started (time : ℕ)
  | event (time : ℕ)
  | fed (time : ℕ)
  | notice (time : ℕ)
deriving DecidableEq

structure State where
  store : Db
  sup : Supervisor
  children : List (String × String)
  rx : ℕ
  now : ℕ
  lastActivity : ℕ
  timerStart : ℕ
  lastTouch : ℕ
  written : ℕ
  completed : ℕ
  marks : List Mark

inductive Label
  | delay (d : ℕ)
  | act (input : Input) (clock : UInt64)
  | send (out : Outgoing) (clock : UInt64)
  | consume (group session : String) (seq : ℕ) (clock : UInt64)
  | status (group agent : String) (status : AgentStatus)

/-- The supervisor of a session as `start` launches it. -/
def launch (store : Db) (se : Session) (now : ℕ) : State where
  store := se.launched.setStatus store .running
  sup := se.launched
  children := [(se.spawn.group, se.spawn.session)]
  rx := 0
  now := now
  lastActivity := now
  timerStart := now
  lastTouch := now
  written := if se.spawn.initialPrompt ≠ "" then 1 else 0
  completed := 0
  marks := [.started now]

def State.allows (st : State) : Input → Bool
  | .elapsed idle => idle = st.now - st.lastActivity
  | .timer => st.timerStart + poll ≤ st.now
  | .woken => 0 < st.rx
  | _ => true

/-- The phase posts a message on the bus. -/
def posts : Phase → Bool
  | .idleNotice _ => true
  | .trace _ => true
  | .turnOutput _ => true
  | .exitNotice _ => true
  | _ => false

def handles (sup sup' : Supervisor) : Bool := sup'.events ≠ sup.events

def reports : Phase → Bool
  | .turnOutput _ => true
  | _ => false

def completes (sup sup' : Supervisor) : Bool :=
  handles sup sup' && reports sup'.phase

def writes (phase : Phase) (input : Input) : Bool :=
  match phase, input with
  | .feed (_ :: _) _ _, .written true => true
  | _, _ => false

/-- The step ends a drain that has fed a turn. -/
def feeds : Phase → Bool
  | .feed [] fed _ => 0 < fed
  | _ => false

def iterates (sup sup' : Supervisor) : Bool :=
  sup'.phase = .select && (sup.phase ≠ .select || handles sup sup')

/-- What a step without an event leaves in the history. -/
def quietMark (now : ℕ) (phase : Phase) (input : Input) : Option Mark :=
  match phase with
  | .idleNotice _ => some (.notice now)
  | _ => if writes phase input then some (.fed now) else none

def addMark (marks : List Mark) : Option Mark → List Mark
  | none => marks
  | some mark => marks ++ [mark]

def received (rx : ℕ) (phase : Phase) (input : Input) : ℕ :=
  match input with
  | .woken => rx - 1
  | _ => if posts phase then rx + 1 else rx

def State.moved (st : State) (input : Input) (store : Db) (sup' : Supervisor) : State where
  store := store
  sup := sup'
  children :=
    if sup'.phase = .ended then
      st.children.filter fun child => child ≠ (st.sup.group, st.sup.session)
    else st.children
  rx := received st.rx st.sup.phase input
  now := st.now
  lastActivity := if handles st.sup sup' || feeds st.sup.phase then st.now else st.lastActivity
  timerStart := if iterates st.sup sup' then st.now else st.timerStart
  lastTouch := if st.sup.phase = .touch then st.now else st.lastTouch
  written := if writes st.sup.phase input then st.written + 1 else st.written
  completed := if completes st.sup sup' then st.completed + 1 else st.completed
  marks := addMark st.marks
    (if handles st.sup sup' then some (.event st.now) else quietMark st.now st.sup.phase input)

def step (fromStr : String → Option Json) (O : Sorting) (st : State) : Label → Option State
  | .delay d => some { st with now := st.now + d }
  | .act input clock =>
    if st.allows input then
      match runSupervisor fromStr O st.store st.sup clock input with
      | none => none
      | some (store, sup') => some (st.moved input store sup')
    else none
  | .send out clock =>
    match st.store.busEnqueue out clock with
    | .ok (store, _) => some { st with store, rx := st.rx + 1 }
    | .error _ => none
  | .consume group session seq clock =>
    some { st with store := { st.store with
      bus := st.store.bus.agentMsgMarkConsumed group session seq clock } }
  | .status group agent status =>
    some { st with store := { st.store with
      agents := st.store.agents.agentSetStatus group agent status } }

def statusOf (store : Db) (sup : Supervisor) : Option AgentStatus :=
  (store.agents.agentGet sup.group sup.session).map AgentRow.status

/-- A turn was written and the status of the agent is not yet set. -/
def flipping : Phase → Bool
  | .markConsumed _ _ _ _ => true
  | .setRunning _ _ _ => true
  | _ => false

/-- The idle check comes to a notice. -/
def State.overdue (st : State) : Bool :=
  st.sup.turnActive && !st.sup.idleNotified &&
    st.sup.idleTimeout.any (· ≤ st.now - st.lastActivity)

/-- Every step of the system. A step that ends the supervisor leaves its flags as they are. -/
inductive Moves (fromStr : String → Option Json) (st : State) : Label → State → Prop
  | delay {d st'} (hst : st' = { st with now := st.now + d }) : Moves fromStr st (.delay d) st'
  | send {out clock store st'} (hagents : store.agents = st.store.agents)
      (hst : st' = { st with store, rx := st.rx + 1 }) : Moves fromStr st (.send out clock) st'
  | consume {group session seq clock store st'} (hagents : store.agents = st.store.agents)
      (hst : st' = { st with store }) : Moves fromStr st (.consume group session seq clock) st'
  | status {group agent status st'} (hst : st' = { st with store := { st.store with
      agents := st.store.agents.agentSetStatus group agent status } }) :
      Moves fromStr st (.status group agent status) st'
  | query {timer rows clock st'} (hphase : st.sup.phase = .pending timer)
      (hst : st' = { st with sup := { st.sup with phase := .feed rows 0 timer } }) :
      Moves fromStr st (.act .done clock) st'
  | drained {fed timer clock st'} (hphase : st.sup.phase = .feed [] fed timer)
      (hst : st' = { st with
        sup := st.sup.drained fed timer
        lastActivity := if 0 < fed then st.now else st.lastActivity
        timerStart := if timer then st.timerStart else st.now }) :
      Moves fromStr st (.act .done clock) st'
  | wrote {row rest fed timer clock st'} (hphase : st.sup.phase = .feed (row :: rest) fed timer)
      (hst : st' = { st with
        sup := { st.sup with phase := .markConsumed row rest fed timer }
        written := st.written + 1
        marks := st.marks ++ [.fed st.now] }) :
      Moves fromStr st (.act (.written true) clock) st'
  | marked {row rest fed timer store clock st'}
      (hphase : st.sup.phase = .markConsumed row rest fed timer)
      (hagents : store.agents = st.store.agents)
      (hst : st' = { st with store, sup := { st.sup with phase := .setRunning rest fed timer } }) :
      Moves fromStr st (.act .done clock) st'
  | running {rest fed timer clock st'} (hphase : st.sup.phase = .setRunning rest fed timer)
      (hst : st' = { st with
        store := st.sup.setStatus st.store .running
        sup := { st.sup with phase := .feed rest (fed + 1) timer } }) :
      Moves fromStr st (.act .done clock) st'
  | checked {idle clock st'} (hphase : st.sup.phase = .idleCheck) (hidle : st.overdue = false)
      (hst : st' = { st with sup := { st.sup with phase := .select }, timerStart := st.now }) :
      Moves fromStr st (.act (.elapsed idle) clock) st'
  | overdue {idle clock st'} (hphase : st.sup.phase = .idleCheck) (hidle : st.overdue = true)
      (hst : st' = { st with
        sup := { st.sup with idleNotified := true, phase := .idleNotice idle } }) :
      Moves fromStr st (.act (.elapsed idle) clock) st'
  | notice {idle store clock st'} (hphase : st.sup.phase = .idleNotice idle)
      (hagents : store.agents = st.store.agents)
      (hst : st' = { st with
        store
        sup := { st.sup with phase := .select }
        rx := st.rx + 1
        timerStart := st.now
        marks := st.marks ++ [.notice st.now] }) :
      Moves fromStr st (.act .done clock) st'
  | more {read buf stdout clock st'} (hphase : st.sup.phase = .select)
      (hst : st' = { st with sup := { st.sup with buf, stdout } }) :
      Moves fromStr st (.act (.read read) clock) st'
  | text {read text buf clock st'} (hphase : st.sup.phase = .select)
      (hnext : nextEvent fromStr st.sup.buf read = (.ok (some (.assistantText text)), buf))
      (hst : st' = { st with
        sup := { st.sup with
          buf
          events := st.sup.events ++ [.assistantText text]
          idleNotified := false
          phase := if st.sup.trace then .trace text else .select }
        lastActivity := st.now
        timerStart := if st.sup.trace then st.timerStart else st.now
        marks := st.marks ++ [.event st.now] }) :
      Moves fromStr st (.act (.read read) clock) st'
  | complete {read result isError buf clock st'} (hphase : st.sup.phase = .select)
      (hnext : nextEvent fromStr st.sup.buf read = (.ok (some (.turnComplete result isError)), buf))
      (hst : st' = { st with
        sup := { st.sup with
          buf
          events := st.sup.events ++ [.turnComplete result isError]
          turnActive := false
          idleNotified := false
          phase := .turnOutput result }
        lastActivity := st.now
        completed := st.completed + 1
        marks := st.marks ++ [.event st.now] }) :
      Moves fromStr st (.act (.read read) clock) st'
  | woken {clock st'} (hphase : st.sup.phase = .select)
      (hst : st' = { st with sup := { st.sup with phase := .pending false }, rx := st.rx - 1 }) :
      Moves fromStr st (.act .woken clock) st'
  | timer {clock st'} (hphase : st.sup.phase = .select) (hdue : st.timerStart + poll ≤ st.now)
      (hst : st' = { st with sup := { st.sup with phase := .touch } }) :
      Moves fromStr st (.act .timer clock) st'
  | traced {text store clock st'} (hphase : st.sup.phase = .trace text)
      (hagents : store.agents = st.store.agents)
      (hst : st' = { st with
        store
        sup := { st.sup with phase := .select }
        rx := st.rx + 1
        timerStart := st.now }) :
      Moves fromStr st (.act .done clock) st'
  | output {result store clock st'} (hphase : st.sup.phase = .turnOutput result)
      (hagents : store.agents = st.store.agents)
      (hst : st' = { st with
        store
        sup := { st.sup with phase := .setAwaiting }
        rx := st.rx + 1 }) :
      Moves fromStr st (.act .done clock) st'
  | awaiting {clock st'} (hphase : st.sup.phase = .setAwaiting)
      (hst : st' = { st with
        store := st.sup.setStatus st.store .awaitingInput
        sup := { st.sup with phase := .select }
        timerStart := st.now }) :
      Moves fromStr st (.act .done clock) st'
  | touched {clock st'} (hphase : st.sup.phase = .touch)
      (hst : st' = { st with sup := { st.sup with phase := .pending true }, lastTouch := st.now }) :
      Moves fromStr st (.act .done clock) st'
  | ends {input clock phase eof buf store children rx st'} (hclosing : phase.closing = true)
      (hfrom : flipping st.sup.phase = false) (hlive : st.sup.phase ≠ .ended)
      (hstore : store.agents = st.store.agents ∨ store = st.sup.setStatus st.store .exited)
      (hst : st' = { st with store, sup := { st.sup with phase, eof, buf }, children, rx }) :
      Moves fromStr st (.act input clock) st'

variable {fromStr : String → Option Json} {O : Sorting} {st st' : State} {l : Label}

lemma busEnqueue_agents {store store' : Db} {out : Outgoing} {clock : UInt64} {seq : ℕ}
    (h : store.busEnqueue out clock = .ok (store', seq)) : store'.agents = store.agents := by
  rw [Orchestration.Requests.State.busEnqueue] at h
  split at h
  · obtain ⟨rfl, _⟩ := Prod.mk.inj (Except.ok.inj h)
    rfl
  · cases h

lemma post_cases {sup sup' : Supervisor} {store store' : Db} {kind : AgentMsgKind} {text : String}
    {now : UInt64} {phase : Phase} (h : sup.post store kind text now phase = some (store', sup')) :
    sup' = { sup with phase } ∧ store'.agents = store.agents := by
  obtain ⟨rfl, _, henq⟩ := post_eq h
  exact ⟨rfl, busEnqueue_agents henq⟩

/-- A step that handles no event of the harness. -/
def State.quiet (st : State) (phase : Phase) (input : Input) (store : Db) (sup' : Supervisor) :
    State where
  store := store
  sup := sup'
  children :=
    if sup'.phase = .ended then
      st.children.filter fun child => child ≠ (st.sup.group, st.sup.session)
    else st.children
  rx := received st.rx phase input
  now := st.now
  lastActivity := if feeds phase then st.now else st.lastActivity
  timerStart := if sup'.phase = .select && phase ≠ .select then st.now else st.timerStart
  lastTouch := if phase = .touch then st.now else st.lastTouch
  written := if writes phase input then st.written + 1 else st.written
  completed := st.completed
  marks := addMark st.marks (quietMark st.now phase input)

lemma moved_quiet {input : Input} {store : Db} {sup' : Supervisor} {phase : Phase}
    (hphase : st.sup.phase = phase) (h : sup'.events = st.sup.events) :
    st.moved input store sup' = st.quiet phase input store sup' := by
  have hno : handles st.sup sup' = false := by
    rw [handles, h]
    simp
  subst hphase
  simp only [State.moved, State.quiet, completes, iterates, hno, Bool.false_and, Bool.or_false,
    Bool.false_or]
  rfl

lemma drained_eq (fed : ℕ) (timer : Bool) :
    st.quiet (.feed [] fed timer) .done st.store (st.sup.drained fed timer) = { st with
      sup := st.sup.drained fed timer
      lastActivity := if 0 < fed then st.now else st.lastActivity
      timerStart := if timer then st.timerStart else st.now } := by
  cases timer <;> cases fed <;> rfl

lemma more_eq {read : Read} (hphase : st.sup.phase = .select) (buf stdout : Bytes) :
    st.quiet .select (.read read) st.store { st.sup with buf, stdout } =
      { st with sup := { st.sup with buf, stdout } } := by
  simp [State.quiet, received, feeds, writes, posts, quietMark, addMark, hphase]

lemma moved_event {read : Read} {store : Db} {sup' : Supervisor} (hphase : st.sup.phase = .select)
    (h : sup'.events ≠ st.sup.events) : st.moved (.read read) store sup' =
      { st with
        store
        sup := sup'
        children :=
          if sup'.phase = .ended then
            st.children.filter fun child => child ≠ (st.sup.group, st.sup.session)
          else st.children
        lastActivity := st.now
        timerStart := if sup'.phase = .select then st.now else st.timerStart
        completed := if reports sup'.phase then st.completed + 1 else st.completed
        marks := st.marks ++ [.event st.now] } := by
  have hyes : handles st.sup sup' = true := decide_eq_true h
  simp [State.moved, completes, iterates, hyes, hphase, received, posts, writes, addMark]

lemma handle_moves {read : Read} {clock : UInt64} {answer : Except String (Option HarnessEvent)}
    {buf : Bytes} (hphase : st.sup.phase = .select)
    (hnext : nextEvent fromStr st.sup.buf read = (answer, buf)) :
    Moves fromStr st (.act (.read read) clock)
      (st.moved (.read read) st.store ({ st.sup with buf }.handle read answer)) := by
  have hnew : ∀ ev : HarnessEvent, st.sup.events ++ [ev] ≠ st.sup.events := by simp
  cases answer with
  | error e => exact .ends rfl (hphase ▸ rfl) (hphase ▸ Phase.noConfusion) (Or.inl rfl) (moved_quiet hphase rfl)
  | ok ev =>
    cases ev with
    | none =>
      cases read with
      | chunk bytes =>
        exact .more hphase (Eq.trans (moved_quiet hphase rfl) (more_eq hphase buf _))
      | closed code =>
        exact .more hphase (Eq.trans (moved_quiet hphase rfl) (more_eq hphase buf st.sup.stdout))
      | failed =>
        exact .more hphase (Eq.trans (moved_quiet hphase rfl) (more_eq hphase buf st.sup.stdout))
    | some ev =>
      cases ev with
      | assistantText text =>
        refine @Moves.text fromStr st read text buf clock _ hphase hnext
          (Eq.trans (moved_event hphase (hnew _)) ?_)
        cases htrace : st.sup.trace with
        | true => simp [Supervisor.handle, htrace, reports]
        | false => simp [Supervisor.handle, htrace, reports]
      | turnComplete result isError =>
        exact .complete hphase hnext (moved_event hphase (hnew _))
      | exited code => exact .ends rfl (hphase ▸ rfl) (hphase ▸ Phase.noConfusion) (Or.inl rfl) (moved_quiet hphase rfl)

lemma act_moves {input : Input} {clock : UInt64} {store : Db} {sup' : Supervisor}
    (hallows : st.allows input = true)
    (h : runSupervisor fromStr O st.store st.sup clock input = some (store, sup')) :
    Moves fromStr st (.act input clock) (st.moved input store sup') := by
  unfold runSupervisor at h
  split at h
  · next hphase =>
    obtain ⟨rfl, rfl⟩ := Prod.mk.inj (Option.some.inj h)
    exact .query hphase (moved_quiet hphase rfl)
  · next fed timer hphase =>
    obtain ⟨rfl, rfl⟩ := Prod.mk.inj (Option.some.inj h)
    refine .drained hphase (Eq.trans (moved_quiet hphase ?_) (drained_eq fed timer))
    rfl
  · next ok hphase =>
    obtain ⟨rfl, rfl⟩ := Prod.mk.inj (Option.some.inj h)
    cases ok with
    | true => exact .wrote hphase (moved_quiet hphase rfl)
    | false => exact .ends rfl (hphase ▸ rfl) (hphase ▸ Phase.noConfusion) (Or.inl rfl) (moved_quiet hphase rfl)
  · next hphase =>
    obtain ⟨hstore, rfl⟩ := Prod.mk.inj (Option.some.inj h)
    refine .marked hphase ?_ (moved_quiet hphase rfl)
    rw [← hstore]
  · next hphase =>
    obtain ⟨rfl, rfl⟩ := Prod.mk.inj (Option.some.inj h)
    exact .running hphase (moved_quiet hphase rfl)
  · next idle hphase =>
    obtain ⟨rfl, rfl⟩ := Prod.mk.inj (Option.some.inj h)
    have hidle : idle = st.now - st.lastActivity := of_decide_eq_true hallows
    rw [Supervisor.checkIdle, hidle]
    split
    · next hover => exact .overdue hphase hover (moved_quiet hphase rfl)
    · next hover =>
      exact .checked hphase (Bool.eq_false_of_not_eq_true hover) (moved_quiet hphase rfl)
  · next hphase =>
    obtain ⟨rfl, hagents⟩ := post_cases h
    exact .notice hphase hagents (moved_quiet hphase rfl)
  · next hphase =>
    obtain ⟨rfl, rfl⟩ := Prod.mk.inj (Option.some.inj h)
    exact handle_moves hphase rfl
  · next hphase =>
    obtain ⟨rfl, rfl⟩ := Prod.mk.inj (Option.some.inj h)
    exact .woken hphase (moved_quiet hphase rfl)
  · next hphase =>
    obtain ⟨rfl, rfl⟩ := Prod.mk.inj (Option.some.inj h)
    exact .timer hphase (of_decide_eq_true hallows) (moved_quiet hphase rfl)
  · next hphase =>
    obtain ⟨rfl, hagents⟩ := post_cases h
    exact .traced hphase hagents (moved_quiet hphase rfl)
  · next hphase =>
    obtain ⟨rfl, hagents⟩ := post_cases h
    exact .output hphase hagents (moved_quiet hphase rfl)
  · next hphase =>
    obtain ⟨rfl, rfl⟩ := Prod.mk.inj (Option.some.inj h)
    exact .awaiting hphase (moved_quiet hphase rfl)
  · next hphase =>
    obtain ⟨rfl, rfl⟩ := Prod.mk.inj (Option.some.inj h)
    exact .touched hphase (moved_quiet hphase rfl)
  · next hphase =>
    obtain ⟨rfl, rfl⟩ := Prod.mk.inj (Option.some.inj h)
    exact .ends rfl (hphase ▸ rfl) (hphase ▸ Phase.noConfusion) (Or.inr rfl) (moved_quiet hphase rfl)
  · next hphase =>
    obtain ⟨rfl, hagents⟩ := post_cases h
    exact .ends rfl (hphase ▸ rfl) (hphase ▸ Phase.noConfusion) (Or.inl hagents) (moved_quiet hphase rfl)
  · cases h

lemma step_moves (h : step fromStr O st l = some st') : Moves fromStr st l st' := by
  cases l with
  | delay d => exact .delay (Option.some.inj h).symm
  | act input clock =>
    simp only [step] at h
    split at h
    · next hallows =>
      split at h
      · cases h
      · next hrun =>
        obtain rfl := Option.some.inj h
        exact act_moves hallows hrun
    · cases h
  | send out clock =>
    simp only [step] at h
    split at h
    · next henq => exact .send (busEnqueue_agents henq) (Option.some.inj h).symm
    · cases h
  | consume group session seq clock =>
    refine .consume ?_ (Option.some.inj h).symm
    rfl
  | status group agent status => exact .status (Option.some.inj h).symm

end WalkieTalkie.Sessions.Clock
