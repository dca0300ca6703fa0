import WalkieTalkie.Orchestration.Requests
import WalkieTalkie.Orchestration.Status

/-! Connections of agents and of the dashboard, with what is written to each, and the supervisors, over
the tables of the whole store. A connection here carries one request: one that carries several, each
with a token of its own, is several of these, one after the other. A request is resolved when it
arrives and then runs one store job at a time, among those of all others. The rows a query answers
with are sorted by a function of the rows that it selects. What the file system, the harness and the
supervisor's control flow do is chosen by the labels, and no receiver of the broadcast lags. -/

namespace WalkieTalkie.Orchestration.Clients

open Proto Store
open Lib (OrderedBy orderBy orderBy_orderedBy)
open Requests (Spawn Outgoing primeRow)
open Lifecycle (Await KillPc KillRequest)

/-- `ORDER BY` with the order it chooses among rows that its keys do not separate. -/
structure Sorting where
  backlog : List AgentMsgRow → List AgentMsgRow
  pending : List AgentMsgRow → List AgentMsgRow
  backlog_ordered : ∀ rows, OrderedBy BusTable.olderFirst rows (backlog rows)
  pending_ordered : ∀ rows, OrderedBy (fun r r' => r.seq ≤ r'.seq) rows (pending rows)

/-- Rows that the keys do not separate stay in the order of the table. -/
def Sorting.stable : Sorting where
  backlog := orderBy BusTable.olderFirst
  pending := orderBy fun r r' => r.seq ≤ r'.seq
  backlog_ordered := orderBy_orderedBy _
  pending_ordered := orderBy_orderedBy _

lemma Sorting.backlog_answers (O : Sorting) (bus : BusTable) (group toAgent : String)
    (session : Option String) (afterMs : Option UInt64) (limit : ℕ) (unconsumedOnly : Bool) :
    bus.AgentMsgBacklog group toAgent session afterMs limit unconsumedOnly
      ((O.backlog (bus.backlogRows group toAgent session afterMs unconsumedOnly)).take limit) :=
  BusTable.agentMsgBacklog_iff.mpr ⟨_, O.backlog_ordered _, rfl⟩

lemma Sorting.pending_answers (O : Sorting) (bus : BusTable) (group toAgent : String)
    (kind : AgentMsgKind) :
    bus.AgentMsgPending group toAgent kind (O.pending (bus.pending group toAgent kind)) :=
  O.pending_ordered _

inductive Event
  | ok
  | err (e : IpcError)
  | refused (code : IpcErrorCode)
  | groupCreated (group : String) (tokenHash : Bytes)
  | spawned (group session : String) (tokenHash : Bytes)
  | agentMsg (session fromAgent : String) (kind : AgentMsgKind) (payload : Bytes) (tsMs : UInt64)
  | agentBacklogEnd
  | whoAmI (group agent : String) (role : Role) (session : Option String)
  | sent (count : ℕ)
deriving DecidableEq

inductive AgentRequest
  | spawn (group session : String) (mode : FsMode) (initialPrompt : String) (coordinator : Bool)
      (childHash : Bytes)
  | agentSend (session : String) (kind : AgentMsgKind) (payload : Bytes)
  | agentRecv (session : Option String) (sinceMs : Option UInt64) (follow consume : Bool)
  | whoAmI
  | agentKill (agent : String)
  | sessionClose (session : String)

inductive GroupRequest
  | groupNew (tokenHash : Bytes)
  | sendMessage (session : String) (kind : Option String) (text : String)
  | broadcastMessage (kind : Option String) (text : String)

inductive RecvPhase
  | backlog
  | write (rows : List AgentMsgRow)
  | mark (row : AgentMsgRow) (rest : List AgentMsgRow)
  | live
  | liveMark (row : AgentMsgRow)

structure Recv where
  group : String
  agent : String
  session : Option String
  since : Option UInt64
  follow : Bool
  consume : Bool
  rx : List AgentMsgRow
  phase : RecvPhase

structure Kill where
  kind : KillRequest
  group : String
  agent : String
  session : String
  pc : KillPc

inductive Task
  | registerPrime (group : String) (tokenHash : Bytes)
  | spawn (sp : Spawn)
  | post (out : Outgoing)
  | broadcast (group : String) (outs : List Outgoing) (sent : ℕ)
  | recv (r : Recv)
  | kill (k : Kill)

structure Supervisor where
  group : String
  session : String
  prime : String
  feed : List AgentMsgRow
  aborted : Bool

/-- What a step does to the supervisors beside the store. -/
inductive ChildOp
  | none
  | start (s : Supervisor)
  | register (group child : String)
  | kill (group child : String)

structure Outcome where
  store : Requests.State
  task : Option Task
  events : List Event
  child : ChildOp

def resolveAgent (store : Requests.State) (tokenHash : Bytes) : Except IpcError AgentRow :=
  match store.agents.agentByToken tokenHash with
  | none => .error ⟨.unauthorized, "unknown or invalid wt token"⟩
  | some me => .ok me

def accept (store : Requests.State) (tokenHash : Bytes) (now : UInt64) :
    AgentRequest → Except IpcError (Option Task × List Event)
  | .spawn group session mode initialPrompt coordinator childHash => do
    let sp ← store.requestSpawn tokenHash group session mode initialPrompt coordinator childHash now
    return (some (.spawn sp), [])
  | .agentSend session kind payload => do
    let out ← store.agentSend tokenHash session kind payload
    return (some (.post out), [])
  | .agentRecv session sinceMs follow consume => do
    let me ← resolveAgent store tokenHash
    return (some (.recv ⟨me.groupName, me.name, session, if consume then none else sinceMs, follow,
      consume, [], .backlog⟩), [])
  | .whoAmI => do
    let me ← resolveAgent store tokenHash
    return (none, [.whoAmI me.groupName me.name me.role
      (if me.role = .child then some me.name else none)])
  | .agentKill agent => do
    let me ← resolveAgent store tokenHash
    if me.role ≠ .prime then throw ⟨.unauthorized, "only the prime may kill agents"⟩
    return (some (.kill ⟨.agentKill, me.groupName, agent, agent, .check⟩), [])
  | .sessionClose session => do
    let me ← resolveAgent store tokenHash
    if me.role ≠ .prime then throw ⟨.unauthorized, "only the prime may close sessions"⟩
    return (some (.kill ⟨.sessionClose, me.groupName, session, session, .check⟩), [])

def groupExists (name : String) : IpcError := ⟨.badRequest, "group '" ++ name ++ "' already exists"⟩

def command (store : Requests.State) (group : String) (now : UInt64) :
    GroupRequest → Requests.State × Option Task × List Event
  | .groupNew tokenHash =>
    let (groups, created) := store.groups.groupCreate group now
    if created then ({ store with groups }, some (.registerPrime group tokenHash), [])
    else (store, none, [.err (groupExists group)])
  | .sendMessage session kind text =>
    match store.sendMessage group session kind text with
    | .ok out => (store, some (.post out), [])
    | .error e => (store, none, [.err ⟨.notFound, e⟩])
  | .broadcastMessage kind text =>
    (store, some (.broadcast group (store.broadcastMessage group kind text) 0), [])

def spawnAnswer (sp : Spawn) : Option Task × List Event :=
  match sp.pc with
  | .done (.ok ()) => (none, [.spawned sp.group sp.session sp.tokenHash])
  | .done (.error code) => (none, [.refused code])
  | _ => (some (.spawn sp), [])

def killAnswer (k : Kill) : Option Task × List Event :=
  match k.pc with
  | .done (.ok ()) => (none, [.ok])
  | .done (.error .notFound) =>
    match k.kind with
    | .agentKill => (none, [.err ⟨.notFound, "no such agent"⟩])
    | .sessionClose => (none, [.err ⟨.notFound, "no such session"⟩])
  | .done (.error code) => (none, [.refused code])
  | _ => (some (.kill k), [])

def spawnChild (sp : Spawn) : ChildOp :=
  match sp.pc.effect with
  | .spawnTask => .start ⟨sp.group, sp.session, sp.prime, [], false⟩
  | .registerChild => .register sp.group sp.session
  | _ => .none

def runKill (store : Requests.State) (k : Kill) (works : Bool) : Requests.State × Kill :=
  match k.pc with
  | .check =>
    match k.kind with
    | .agentKill =>
      (store, { k with pc := k.pc.next k.kind (store.agents.agentGet k.group k.agent).isSome })
    | .sessionClose =>
      match store.sessions.sessionGet k.group k.session with
      | some sess => (store, { k with agent := sess.childAgent, pc := k.pc.next k.kind true })
      | none => (store, { k with pc := k.pc.next k.kind false })
  | .setExited =>
    (if works then { store with agents := store.agents.agentSetStatus k.group k.agent .exited }
      else store, { k with pc := k.pc.next k.kind true })
  | .sessionGet =>
    (store, { k with
      pc := k.pc.next k.kind (store.sessions.sessionGet k.group k.session).isSome })
  | .sessionClose =>
    ({ store with sessions := store.sessions.sessionClose k.group k.session },
      { k with pc := k.pc.next k.kind true })
  | pc => (store, { k with pc := pc.next k.kind true })

def killedChild (k : Kill) : ChildOp :=
  match k.pc with
  | .killChild => .kill k.group k.agent
  | _ => .none

def msgEvent (row : AgentMsgRow) : Event :=
  .agentMsg row.sessionName row.fromAgent row.kind row.payload row.enqueuedAtMs

/-- The first event of the group; those of other groups are passed over. -/
def nextOwn (group : String) : List AgentMsgRow → Option (AgentMsgRow × List AgentMsgRow)
  | [] => none
  | row :: rest => if row.groupName = group then some (row, rest) else nextOwn group rest

def markRow (store : Requests.State) (group : String) (row : AgentMsgRow) (works : Bool)
    (now : UInt64) : Requests.State :=
  if works then
    { store with bus := store.bus.agentMsgMarkConsumed group row.sessionName row.seq now }
  else store

def Recv.wants (r : Recv) (row : AgentMsgRow) : Bool :=
  row.toAgent = r.agent && r.session.all (row.sessionName = ·)

def runRecv (O : Sorting) (store : Requests.State) (r : Recv) (works : Bool) (now : UInt64) :
    Requests.State × Option Recv × List Event :=
  match r.phase with
  | .backlog =>
    let rows := (O.backlog
      (store.bus.backlogRows r.group r.agent r.session r.since r.consume)).take 10000
    (store, some { r with phase := .write rows }, [])
  | .write [] => (store, if r.follow then some { r with phase := .live } else none,
      [.agentBacklogEnd])
  | .write (row :: rest) =>
    (store, some { r with phase := if r.consume then .mark row rest else .write rest },
      [msgEvent row])
  | .mark row rest => (markRow store r.group row works now, some { r with phase := .write rest }, [])
  | .live =>
    match nextOwn r.group r.rx with
    | none => (store, some r, [])
    | some (row, rest) =>
      if r.wants row then
        (store, some { r with rx := rest, phase := if r.consume then .liveMark row else .live },
          [msgEvent row])
      else (store, some { r with rx := rest }, [])
  | .liveMark row => (markRow store r.group row works now, some { r with phase := .live }, [])

def runTask (O : Sorting) (store : Requests.State) (outcome : Bool) (now : UInt64) : Task → Outcome
  | .registerPrime group tokenHash =>
    ⟨{ store with agents := (store.agents.agentRegister (primeRow group tokenHash)).1 }, none,
      [.groupCreated group tokenHash], .none⟩
  | .spawn sp =>
    let (store', sp') := store.runSpawn sp outcome now
    ⟨store', (spawnAnswer sp').1, (spawnAnswer sp').2, spawnChild sp⟩
  | .post out =>
    match store.busEnqueue out now with
    | .ok (store', _) => ⟨store', none, [.ok], .none⟩
    | .error _ => ⟨store, none, [.refused .internal], .none⟩
  | .broadcast _ [] sent => ⟨store, none, [.sent sent], .none⟩
  | .broadcast group (out :: rest) sent =>
    match store.busEnqueue out now with
    | .ok (store', _) => ⟨store', some (.broadcast group rest (sent + 1)), [], .none⟩
    | .error _ => ⟨store, some (.broadcast group rest sent), [], .none⟩
  | .recv r =>
    let (store', r', events) := runRecv O store r outcome now
    ⟨store', r'.map .recv, events, .none⟩
  | .kill k =>
    let (store', k') := runKill store k outcome
    ⟨store', (killAnswer k').1, (killAnswer k').2, killedChild k⟩

section

variable (O : Sorting) (store : Requests.State) (outcome : Bool) (now : UInt64)

lemma runTask_post (out : Outgoing) : (runTask O store outcome now (.post out)).task = none ∧
    (runTask O store outcome now (.post out)).child = .none ∧
    ((runTask O store outcome now (.post out)).store = store ∨ ∃ seq,
      store.busEnqueue out now = .ok ((runTask O store outcome now (.post out)).store, seq)) := by
  rw [runTask]
  cases store.busEnqueue out now with
  | ok p => exact ⟨rfl, rfl, Or.inr ⟨p.2, rfl⟩⟩
  | error e => exact ⟨rfl, rfl, Or.inl rfl⟩

lemma runTask_broadcast (group : String) (out : Outgoing) (rest : List Outgoing) (sent : ℕ) :
    (∃ n, (runTask O store outcome now (.broadcast group (out :: rest) sent)).task =
      some (.broadcast group rest n)) ∧
    (runTask O store outcome now (.broadcast group (out :: rest) sent)).child = .none ∧
    ((runTask O store outcome now (.broadcast group (out :: rest) sent)).store = store ∨ ∃ seq,
      store.busEnqueue out now =
        .ok ((runTask O store outcome now (.broadcast group (out :: rest) sent)).store, seq)) := by
  rw [runTask]
  cases store.busEnqueue out now with
  | ok p => exact ⟨⟨_, rfl⟩, rfl, Or.inr ⟨p.2, rfl⟩⟩
  | error e => exact ⟨⟨_, rfl⟩, rfl, Or.inl rfl⟩

end

/-- A failed store job ends most requests; one whose client is gone ends without an answer. -/
def failTask : Task → Option Task × List Event
  | .registerPrime _ _ => (none, [.refused .internal])
  | .spawn sp => spawnAnswer { sp with pc := Status.spawnFails sp.request sp.pc }
  | .post _ => (none, [.refused .internal])
  | .broadcast group outs sent => (some (.broadcast group outs.tail sent), [])
  | .recv r =>
    match r.phase with
    | .backlog => (none, [.refused .internal])
    | _ => (none, [])
  | .kill k => killAnswer { k with pc := Status.killFails k.kind k.pc }

def Supervisor.post (s : Supervisor) (store : Requests.State) (kind : AgentMsgKind) (text : Bytes)
    (now : UInt64) : Requests.State :=
  match store.busEnqueue ⟨s.group, s.session, s.session, s.prime, kind, text⟩ now with
  | .ok (store', _) => store'
  | .error _ => store

def Supervisor.setStatus (s : Supervisor) (store : Requests.State) (status : AgentStatus) :
    Requests.State :=
  { store with agents := store.agents.agentSetStatus s.group s.session status }

def runSupervisor (O : Sorting) (store : Requests.State) (s : Supervisor) (text : Bytes)
    (now : UInt64) : Await → Requests.State × Option Supervisor
  | .pending _ =>
    (store, some { s with feed := O.pending (store.bus.pending s.group s.session .turnInput) })
  | .markConsumed _ _ =>
    match s.feed with
    | [] => (store, some s)
    | row :: _ =>
      ({ store with bus := store.bus.agentMsgMarkConsumed s.group row.sessionName row.seq now },
        some s)
  | .setRunning _ _ => (s.setStatus store .running, some { s with feed := s.feed.tail })
  | .trace => (s.post store .trace text now, some s)
  | .turnOutput => (s.post store .turnOutput text now, some s)
  | .setAwaiting => (s.setStatus store .awaitingInput, some s)
  | .idleNotice => (s.post store .control text now, some s)
  | .setExited => (s.setStatus store .exited, some s)
  | .exitNotice => (s.post store .control text now, some s)
  | .forgetChild => (store, none)
  | .sendTurn _ _ => (store, some s)
  | .select => (store, some s)
  | .touch => (store, some s)

/-- Who opened a connection: the bearer of a token, or anyone who names a group. -/
inductive Opener
  | token (tokenHash : Bytes)
  | group (name : String)
deriving DecidableEq

structure Conn where
  opener : Opener
  task : Option Task
  written : List Event

@[ext]
structure State where
  store : Requests.State
  conns : ℕ → Option Conn
  supervisors : ℕ → Option Supervisor
  children : String × String → Option ℕ

def initial : State := ⟨Requests.initial, fun _ => none, fun _ => none, fun _ => none⟩

inductive Label
  | request (id : ℕ) (tokenHash : Bytes) (r : AgentRequest) (now : UInt64)
  | command (id : ℕ) (group : String) (r : GroupRequest) (now : UInt64)
  | run (id : ℕ) (opener : Opener) (outcome : Bool) (now : UInt64)
  | fail (id : ℕ) (opener : Opener)
  | supervise (id : ℕ) (group : String) (a : Await) (text : Bytes) (now : UInt64)
  | restart
  | reconcile

def Conn.receive (rows : List AgentMsgRow) (c : Conn) : Conn :=
  match c.task with
  | some (.recv r) => { c with task := some (.recv { r with rx := r.rx ++ rows }) }
  | _ => c

def newRows (store store' : Requests.State) : List AgentMsgRow := store'.log.drop store.log.length

namespace State

def put (st : State) (store : Requests.State) : State :=
  { st with
    store, conns := fun id => (st.conns id).map (Conn.receive (newRows st.store store)) }

def setConn (st : State) (id : ℕ) (c : Conn) : State :=
  { st with conns := Function.update st.conns id (some c) }

def runChild (st : State) (id : ℕ) : ChildOp → State
  | .none => st
  | .start s => { st with supervisors := Function.update st.supervisors id (some s) }
  | .register group child =>
    { st with children := Function.update st.children (group, child) (some id) }
  | .kill group child =>
    match st.children (group, child) with
    | none => st
    | some i =>
      { st with
        children := Function.update st.children (group, child) none
        supervisors := Function.update st.supervisors i
          ((st.supervisors i).map fun s => { s with aborted := true }) }

end State

def answered (c : Conn) (task : Option Task) (events : List Event) : Conn :=
  { c with task, written := c.written ++ events }

def stepRequest (st : State) (id : ℕ) (tokenHash : Bytes) (r : AgentRequest) (now : UInt64) :
    Option State :=
  match st.conns id with
  | some _ => none
  | none =>
    match accept st.store tokenHash now r with
    | .ok (task, events) => some (st.setConn id ⟨.token tokenHash, task, events⟩)
    | .error e => some (st.setConn id ⟨.token tokenHash, none, [.err e]⟩)

def stepCommand (st : State) (id : ℕ) (group : String) (r : GroupRequest) (now : UInt64) :
    Option State :=
  match st.conns id with
  | some _ => none
  | none =>
    let (store, task, events) := command st.store group now r
    some ((st.put store).setConn id ⟨.group group, task, events⟩)

def stepRun (O : Sorting) (st : State) (id : ℕ) (opener : Opener) (outcome : Bool) (now : UInt64) :
    Option State :=
  match st.conns id with
  | none => none
  | some c =>
    match c.task with
    | none => none
    | some t =>
      if c.opener = opener then
        let o := runTask O st.store outcome now t
        some (((st.put o.store).setConn id (answered c o.task o.events)).runChild id o.child)
      else none

def stepFail (st : State) (id : ℕ) (opener : Opener) : Option State :=
  match st.conns id with
  | none => none
  | some c =>
    match c.task with
    | none => none
    | some t =>
      if c.opener = opener then
        some (st.setConn id (answered c (failTask t).1 (failTask t).2))
      else none

def stepSupervise (O : Sorting) (st : State) (id : ℕ) (group : String) (a : Await) (text : Bytes)
    (now : UInt64) : Option State :=
  match st.supervisors id with
  | none => none
  | some s =>
    if s.group = group then
      let (store, s') := runSupervisor O st.store s text now a
      let children := if s'.isNone then Function.update st.children (s.group, s.session) none
        else st.children
      some { st.put store with
        supervisors := Function.update st.supervisors id s', children }
    else none

def step (O : Sorting) (st : State) : Label → Option State
  | .request id tokenHash r now => stepRequest st id tokenHash r now
  | .command id group r now => stepCommand st id group r now
  | .run id opener outcome now => stepRun O st id opener outcome now
  | .fail id opener => stepFail st id opener
  | .supervise id group a text now => stepSupervise O st id group a text now
  | .restart =>
    some { st with
      conns := fun id => (st.conns id).map fun c => { c with task := none }
      supervisors := fun _ => none
      children := fun _ => none }
  | .reconcile =>
    let (agents, sessions) := reconcileStaleAgents st.store.agents st.store.sessions
    some { st with store := { st.store with agents, sessions } }

end WalkieTalkie.Orchestration.Clients
