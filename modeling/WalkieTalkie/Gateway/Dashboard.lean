import Mathlib.Logic.Function.Basic
import WalkieTalkie.Gateway.Transcript
import WalkieTalkie.Store.Agents

/-! The dashboard page and the gateway behind it. The page loads the transcript of every session of the
group it shows, and only then opens a socket for what follows; a broadcast reaches the sockets whose
loops have subscribed by then. What the page does between two awaits is one step. `missed` keeps what
was broadcast past the page: while it did not listen, out of a full queue, or with a socket that
closed. -/

namespace WalkieTalkie.Gateway.Dashboard

open Proto Store Lib Lib.Runs

def busCapacity : ℕ := 1024

/-- A panel, with the length of the log when it was built, and whether a later query is on it. -/
structure Panel where
  seen : List UInt64
  transcript : List Shown
  since : ℕ
  loaded : Bool
deriving DecidableEq

inductive Loop
  | connecting
  | running (rx : List AgentMsgRow)
  | ended
deriving DecidableEq

structure Socket where
  group : String
  loop : Loop
  wire : List AgentMsgRow
  attached : Bool
deriving DecidableEq

inductive Reply (α : Type)
  | awaited
  | failed
  | answered (answer : α)
deriving DecidableEq

/-- A request for the messages of a session; the answer comes with the length of the log. -/
structure Load where
  session : String
  reply : Reply (ℕ × List Shown)
deriving DecidableEq

inductive Phase
  | fetching (reply : Reply (List String))
  | loading (loads : List Load)
deriving DecidableEq

structure Render where
  group : String
  select : Bool
  phase : Phase
deriving DecidableEq

structure Poll where
  group : String
  reply : Reply (List String)
deriving DecidableEq

structure State where
  bus : BusTable
  log : List AgentMsgRow
  inFlight : List AgentMsgRow
  sessions : SessionTable
  sockets : List Socket
  currentGroup : Option String
  panels : String → Option Panel
  ws : Option ℕ
  statusTimer : Bool
  renders : List Render
  polls : List Poll
  timers : List String
  missed : List AgentMsgRow

def initial : State :=
  ⟨Table.empty, [], [], Table.empty, [], none, fun _ => none, none, false, [], [], [], []⟩

inductive Label
  | enqueue (group session fromAgent toAgent : String) (kind : AgentMsgKind) (payload : Bytes)
      (now : UInt64)
  | mark (group session : String) (seq : ℕ) (now : UInt64)
  | sessions (sessions : SessionTable)
  | broadcast (i : ℕ)
  | subscribe (id : ℕ)
  | forward (id : ℕ)
  | endLoop (id : ℕ)
  | selectGroup (group : String)
  | answerSessions (k : ℕ) (works : Bool)
  | takeSessions (k : ℕ)
  | answerMessages (k i : ℕ) (works : Bool)
  | takeMessages (k i : ℕ)
  | refreshStatuses
  | answerPoll (j : ℕ) (works : Bool)
  | takePoll (j : ℕ)
  | receive (id : ℕ)
  | closed (id : ℕ)
  | timer (i : ℕ)

def Panel.appendMessage (p : Panel) (m : Shown) : Panel :=
  if m.seq ∈ p.seen then p
  else { p with seen := p.seen ++ [m.seq], transcript := p.transcript ++ [m] }

def Panel.load (p : Panel) (n : ℕ) (msgs : List Shown) : Panel :=
  let p := msgs.foldl Panel.appendMessage p
  { p with loaded := p.loaded || p.since ≤ n }

def Loop.rx : Loop → List AgentMsgRow
  | .running rx => rx
  | _ => []

def Loop.push (row : AgentMsgRow) : Loop → Loop
  | .running rx => .running ((rx ++ [row]).drop (rx.length + 1 - busCapacity))
  | l => l

/-- What a broadcast does not leave in the queue. -/
def Loop.drops (row : AgentMsgRow) : Loop → List AgentMsgRow
  | .running rx => (rx ++ [row]).take (rx.length + 1 - busCapacity)
  | _ => [row]

def Socket.pending (s : Socket) : List AgentMsgRow := s.loop.rx ++ s.wire

namespace State

def current (st : State) : Option Socket := st.ws.bind fun id => st.sockets[id]?

def setSocket (st : State) (id : ℕ) (s : Socket) : State :=
  { st with sockets := st.sockets.set id s }

def lose (st : State) (rows : List AgentMsgRow) : State := { st with missed := st.missed ++ rows }

/-- The page handles what comes for the group it shows. -/
def listening (st : State) : Option Loop :=
  match st.current with
  | none => none
  | some s => if s.attached ∧ st.currentGroup = some s.group then some s.loop else none

def broadcast (st : State) (i : ℕ) (row : AgentMsgRow) : State :=
  let past := match st.listening with
    | none => [row]
    | some l => l.drops row
  let sockets := st.sockets.map fun s => { s with loop := s.loop.push row }
  { st with inFlight := st.inFlight.eraseIdx i, sockets }.lose past

def detach (st : State) : State :=
  match st.ws with
  | none => st
  | some id =>
    match st.sockets[id]? with
    | none => st
    | some s => (st.setSocket id { s with attached := false }).lose s.pending

def openWs (st : State) (group : String) : State :=
  let st := st.detach
  { st with sockets := st.sockets ++ [⟨group, .connecting, [], true⟩], ws := some st.sockets.length }

def appendMessage (st : State) (session : String) (m : Shown) : State :=
  match st.panels session with
  | none => st
  | some p => { st with panels := Function.update st.panels session (some (p.appendMessage m)) }

def buildPanels (st : State) (names : List String) : State :=
  { st with panels := fun s => if s ∈ names then some ⟨[], [], st.log.length, false⟩ else st.panels s }

/-- `renderSessions` returns; `selectGroup` goes on with the socket and the status polling. -/
def finish (st : State) (k : ℕ) (r : Render) : State :=
  let st := { st with renders := st.renders.eraseIdx k }
  if r.select then { st.openWs r.group with statusTimer := true } else st

def startRender (st : State) (group : String) (select : Bool) : State :=
  { st with renders := st.renders ++ [⟨group, select, .fetching .awaited⟩] }

def sessionNames (st : State) (group : String) : List String :=
  (st.sessions.sessionList group).map SessionRow.name

def takeSessions (st : State) (k : ℕ) (r : Render) (names : List String) : State :=
  if st.currentGroup = some r.group then
    match names with
    | [] => st.finish k r
    | _ => { st.buildPanels names with
        renders := st.renders.set k { r with phase := .loading (names.map fun s => ⟨s, .awaited⟩) } }
  else st.finish k r

def showMessages (st : State) (r : Render) (session : String) : Reply (ℕ × List Shown) → State
  | .answered (n, msgs) =>
    match st.panels session with
    | none => st
    | some p =>
      if st.currentGroup = some r.group then
        { st with panels := Function.update st.panels session (some (p.load n msgs)) }
      else st
  | _ => st

def takeMessages (st : State) (k i : ℕ) (r : Render) (loads : List Load) (l : Load) : State :=
  let st := st.showMessages r l.session l.reply
  match loads.eraseIdx i with
  | [] => st.finish k r
  | rest => { st with renders := st.renders.set k { r with phase := .loading rest } }

def receive (st : State) (id : ℕ) (s : Socket) (row : AgentMsgRow) (rest : List AgentMsgRow) :
    State :=
  let st := st.setSocket id { s with wire := rest }
  if st.currentGroup = some s.group then st.appendMessage row.sessionName (shown row) else st

def closed (st : State) (id : ℕ) (s : Socket) : State :=
  let st := st.setSocket id { s with attached := false }
  if st.ws = some id then
    let timers := if st.currentGroup = some s.group then st.timers ++ [s.group] else st.timers
    { st.lose s.pending with timers }
  else st

end State

def answer (st : State) (group : String) (works : Bool) : Reply (List String) :=
  if works then .answered (st.sessionNames group) else .failed

def answerMessages (st : State) (r : Render) (l : Load) (works : Bool) : Load :=
  { l with reply :=
      if works then .answered (st.log.length, listMessages st.bus r.group l.session 0) else .failed }

def stepSocket (st : State) (id : ℕ) (s : Socket) : Label → Option State
  | .subscribe _ => if s.loop = .connecting then some (st.setSocket id { s with loop := .running [] })
    else none
  | .forward _ =>
    match s.loop with
    | .running (row :: rx) => some (st.setSocket id { s with
        loop := .running rx, wire := if row.groupName = s.group then s.wire ++ [row] else s.wire })
    | _ => none
  | .endLoop _ => some ((st.setSocket id { s with loop := .ended }).lose
      (if st.ws = some id then s.loop.rx else []))
  | .receive _ =>
    match s.wire with
    | row :: rest => if s.attached then some (st.receive id s row rest) else none
    | [] => none
  | .closed _ => if s.attached then some (st.closed id s) else none
  | _ => none

def stepRender (st : State) (k : ℕ) (r : Render) : Label → Option State
  | .answerSessions _ works =>
    match r.phase with
    | .fetching .awaited =>
      some { st with renders := st.renders.set k { r with phase := .fetching (answer st r.group works) } }
    | _ => none
  | .takeSessions _ =>
    match r.phase with
    | .fetching .failed => some (st.finish k r)
    | .fetching (.answered names) => some (st.takeSessions k r names)
    | _ => none
  | .answerMessages _ i works =>
    match r.phase with
    | .loading loads =>
      match loads[i]? with
      | some ⟨session, .awaited⟩ => some { st with renders := st.renders.set k { r with
          phase := .loading (loads.set i (answerMessages st r ⟨session, .awaited⟩ works)) } }
      | _ => none
    | _ => none
  | .takeMessages _ i =>
    match r.phase with
    | .loading loads =>
      match loads[i]? with
      | some l => if l.reply = .awaited then none else some (st.takeMessages k i r loads l)
      | none => none
    | _ => none
  | _ => none

def takePoll (st : State) (j : ℕ) : Reply (List String) → Option State
  | .awaited => none
  | .failed => some { st with polls := st.polls.eraseIdx j }
  | .answered names =>
    let st := { st with polls := st.polls.eraseIdx j }
    match st.currentGroup with
    | none => some st
    | some group =>
      if names.any fun s => (st.panels s).isNone then some (st.startRender group false) else some st

/-- The page holds numbers as doubles, which are exact up to 2^53. -/
def step (st : State) : Label → Option State
  | .enqueue g s fromAgent toAgent kind payload now =>
    if st.bus.lastSeq g s + 1 < 2 ^ 53 then
      match st.bus.agentMsgEnqueue g s fromAgent toAgent kind payload now with
      | .error _ => none
      | .ok (bus, row) =>
        some { st with bus, log := st.log ++ [row], inFlight := st.inFlight ++ [row] }
    else none
  | .mark g s seq now => some { st with bus := st.bus.agentMsgMarkConsumed g s seq now }
  | .sessions sessions => some { st with sessions }
  | .broadcast i => (st.inFlight[i]?).map fun row => st.broadcast i row
  | .selectGroup group =>
    some ({ st with currentGroup := some group, panels := fun _ => none }.startRender group true)
  | .refreshStatuses =>
    match st.currentGroup with
    | none => none
    | some group =>
      if st.statusTimer then some { st with polls := st.polls ++ [⟨group, .awaited⟩] } else none
  | .answerPoll j works =>
    match st.polls[j]? with
    | some ⟨group, .awaited⟩ => some { st with polls := st.polls.set j ⟨group, answer st group works⟩ }
    | _ => none
  | .takePoll j => (st.polls[j]?).bind fun p => takePoll st j p.reply
  | .timer i => (st.timers[i]?).map fun group =>
      let st := { st with timers := st.timers.eraseIdx i }
      if st.currentGroup = some group then st.openWs group else st
  | .subscribe id => (st.sockets[id]?).bind fun s => stepSocket st id s (.subscribe id)
  | .forward id => (st.sockets[id]?).bind fun s => stepSocket st id s (.forward id)
  | .endLoop id => (st.sockets[id]?).bind fun s => stepSocket st id s (.endLoop id)
  | .receive id => (st.sockets[id]?).bind fun s => stepSocket st id s (.receive id)
  | .closed id => (st.sockets[id]?).bind fun s => stepSocket st id s (.closed id)
  | .answerSessions k works => (st.renders[k]?).bind fun r => stepRender st k r (.answerSessions k works)
  | .takeSessions k => (st.renders[k]?).bind fun r => stepRender st k r (.takeSessions k)
  | .answerMessages k i works =>
    (st.renders[k]?).bind fun r => stepRender st k r (.answerMessages k i works)
  | .takeMessages k i => (st.renders[k]?).bind fun r => stepRender st k r (.takeMessages k i)

end WalkieTalkie.Gateway.Dashboard
