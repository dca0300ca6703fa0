import WalkieTalkie.Lib.Runs
import WalkieTalkie.Orchestration.Spawn
import WalkieTalkie.Store.Ledger

/-! The requests that write groups, agents, sessions and bus messages, over the tables of the whole
store. A request reads what it needs and then has jobs in flight, which run one at a time in any
order with those of others; a request whose job fails goes no further. Tokens are given by their
hashes, and `initialPrompt` is the text that the harness is launched with. -/

namespace WalkieTalkie.Orchestration.Requests

open Proto Store

def kindFromStr : String → AgentMsgKind
  | "turn_output" => .turnOutput
  | "turn_input" => .turnInput
  | "control" => .control
  | "trace" => .trace
  | _ => .user

def textBytes (text : String) : Bytes := text.toUTF8.data.toList

/-- A spawn in flight, with the number of its recorded prompt. -/
structure Spawn where
  prime : String
  group : String
  session : String
  mode : FsMode
  initialPrompt : String
  coordinator : Bool
  tokenHash : Bytes
  now : UInt64
  pc : SpawnPc
  prompt : ℕ

structure Outgoing where
  group : String
  session : String
  fromAgent : String
  toAgent : String
  kind : AgentMsgKind
  payload : Bytes

structure State where
  groups : GroupTable
  agents : AgentTable
  sessions : SessionTable
  bus : BusTable
  log : List AgentMsgRow
  primes : List (String × Bytes)
  spawns : List Spawn
  outgoing : List Outgoing

def initial : State :=
  ⟨Lib.Table.empty, AgentTable.empty, Lib.Table.empty, Lib.Table.empty, [], [], [], []⟩

def Spawn.request (sp : Spawn) : SpawnRequest := ⟨sp.mode, sp.initialPrompt ≠ ""⟩

def Spawn.agentRow (sp : Spawn) : AgentRow where
  groupName := sp.group
  name := sp.session
  tokenHash := sp.tokenHash
  role := if sp.coordinator then .prime else .child
  status := .starting

def Spawn.sessionRow (sp : Spawn) : SessionRow where
  groupName := sp.group
  name := sp.session
  primeAgent := sp.prime
  childAgent := sp.session
  fsMode := sp.mode
  status := .active
  createdAtMs := sp.now

def primeRow (group : String) (tokenHash : Bytes) : AgentRow :=
  ⟨group, "prime", tokenHash, .prime, .idle⟩

namespace State

def busEnqueue (st : State) (out : Outgoing) (now : UInt64) : Except String (State × ℕ) :=
  match st.bus.agentMsgEnqueue out.group out.session out.fromAgent out.toAgent out.kind
    out.payload now with
  | .ok (bus, row) => .ok ({ st with bus, log := st.log ++ [row] }, row.seq)
  | .error e => .error e

def requestSpawn (st : State) (tokenHash : Bytes) (group session : String) (mode : FsMode)
    (initialPrompt : String) (coordinator : Bool) (childHash : Bytes) (now : UInt64) :
    Except IpcError Spawn :=
  match st.agents.agentByToken tokenHash with
  | none => .error ⟨.unauthorized, "unknown or invalid wt token"⟩
  | some me =>
    if me.groupName ≠ group ∨ me.role ≠ .prime then
      .error ⟨.unauthorized, "spawn requires the group's prime token"⟩
    else
      .ok ⟨me.name, group, session, mode, initialPrompt, coordinator, childHash, now,
        .sessionGet, 0⟩

def agentSend (st : State) (tokenHash : Bytes) (session : String) (kind : AgentMsgKind)
    (payload : Bytes) : Except IpcError Outgoing :=
  match st.agents.agentByToken tokenHash with
  | none => .error ⟨.unauthorized, "unknown or invalid wt token"⟩
  | some me =>
    match st.sessions.sessionGet me.groupName session with
    | none => .error ⟨.notFound, "no such session"⟩
    | some sess =>
      if me.name = sess.primeAgent then
        .ok ⟨me.groupName, session, me.name, sess.childAgent, kind, payload⟩
      else if me.name = sess.childAgent then
        .ok ⟨me.groupName, session, me.name, sess.primeAgent, kind, payload⟩
      else .error ⟨.badRequest, "sender is not a participant of this session"⟩

def sendMessage (st : State) (group session : String) (kind : Option String) (text : String) :
    Except String Outgoing :=
  match st.sessions.sessionGet group session with
  | none => .error "no such session"
  | some sess => .ok ⟨group, session, sess.primeAgent, sess.childAgent,
      kindFromStr (kind.getD "turn_input"), textBytes text⟩

def broadcastMessage (st : State) (group : String) (kind : Option String) (text : String) :
    List Outgoing :=
  ((st.sessions.sessionList group).filter fun s => s.status = .active).map fun s =>
    ⟨group, s.name, "prime", s.childAgent, kindFromStr (kind.getD "turn_input"), textBytes text⟩

def runOp (st : State) (sp : Spawn) : Op → State × Bool
  | .sessionGet => (st, (st.sessions.sessionGet sp.group sp.session).isSome)
  | .agentGet => (st, (st.agents.agentGet sp.group sp.session).isSome)
  | .agentRegister =>
    let (agents, ok) := st.agents.agentRegister sp.agentRow
    ({ st with agents }, ok)
  | .sessionCreate =>
    let (sessions, ok) := st.sessions.sessionCreate sp.sessionRow
    ({ st with sessions }, ok)
  | .agentSetStatus status =>
    ({ st with agents := st.agents.agentSetStatus sp.group sp.session status }, true)
  | .sessionClose => ({ st with sessions := st.sessions.sessionClose sp.group sp.session }, true)
  | .bus => (st, true)

def runSpawn (st : State) (sp : Spawn) (outcome : Bool) (now : UInt64) : State × Spawn :=
  match sp.pc with
  | .recordPrompt =>
    match st.busEnqueue ⟨sp.group, sp.session, sp.prime, sp.session, .turnInput,
      textBytes sp.initialPrompt⟩ now with
    | .ok (st', seq) => (st', { sp with pc := sp.pc.next sp.request true, prompt := seq })
    | .error _ => (st, { sp with pc := sp.pc.next sp.request false })
  | .consumePrompt =>
    ({ st with bus := st.bus.agentMsgMarkConsumed sp.group sp.session sp.prompt now },
      { sp with pc := sp.pc.next sp.request true })
  | pc =>
    match pc.effect with
    | .store op =>
      let (st', ok) := st.runOp sp op
      (st', { sp with pc := pc.next sp.request ok })
    | _ => (st, { sp with pc := pc.next sp.request outcome })

lemma requestSpawn_cases {st : State} {tokenHash childHash : Bytes}
    {group session initialPrompt : String} {mode : FsMode} {coordinator : Bool} {now : UInt64}
    {sp : Spawn} (h : st.requestSpawn tokenHash group session mode initialPrompt coordinator childHash
      now = .ok sp) : ∃ me, st.agents.agentByToken tokenHash = some me ∧ me.groupName = group ∧
      me.role = .prime ∧ sp = ⟨me.name, group, session, mode, initialPrompt, coordinator, childHash,
        now, .sessionGet, 0⟩ := by
  rw [requestSpawn] at h
  split at h
  · cases h
  · next me hme =>
    split at h
    · cases h
    · next hallowed =>
      obtain ⟨hgroup, hrole⟩ := not_or.mp hallowed
      exact ⟨me, hme, not_not.mp hgroup, not_not.mp hrole, (Except.ok.inj h).symm⟩

lemma agentSend_cases {st : State} {tokenHash payload : Bytes} {session : String}
    {kind : AgentMsgKind} {out : Outgoing}
    (h : st.agentSend tokenHash session kind payload = .ok out) :
    ∃ me sess, st.agents.agentByToken tokenHash = some me ∧
      st.sessions.sessionGet me.groupName session = some sess ∧
      (me.name = sess.primeAgent ∧
          out = ⟨me.groupName, session, me.name, sess.childAgent, kind, payload⟩ ∨
        me.name ≠ sess.primeAgent ∧ me.name = sess.childAgent ∧
          out = ⟨me.groupName, session, me.name, sess.primeAgent, kind, payload⟩) := by
  rw [agentSend] at h
  split at h
  · cases h
  · next me hme =>
    split at h
    · cases h
    · next sess hsess =>
      refine ⟨me, sess, hme, hsess, ?_⟩
      split at h
      · next hprime => exact Or.inl ⟨hprime, (Except.ok.inj h).symm⟩
      · next hprime =>
        split at h
        · next hchild => exact Or.inr ⟨hprime, hchild, (Except.ok.inj h).symm⟩
        · cases h

end State

inductive Label
  | groupNew (name : String) (tokenHash : Bytes) (now : UInt64)
  | registerPrime (k : ℕ)
  | spawn (tokenHash : Bytes) (group session : String) (mode : FsMode) (initialPrompt : String)
      (coordinator : Bool) (childHash : Bytes) (now : UInt64)
  | spawnStep (k : ℕ) (outcome : Bool) (now : UInt64)
  | spawnEnd (k : ℕ)
  | agentSend (tokenHash : Bytes) (session : String) (kind : AgentMsgKind) (payload : Bytes)
  | sendMessage (group session : String) (kind : Option String) (text : String)
  | broadcastMessage (group : String) (kind : Option String) (text : String)
  | report (group session : String) (kind : AgentMsgKind) (payload : Bytes)
  | post (k : ℕ) (now : UInt64)
  | drop (k : ℕ)
  | markConsumed (group session : String) (seq : ℕ) (now : UInt64)
  | setStatus (group agent : String) (status : AgentStatus)
  | sessionClose (group session : String)
  | reconcile

def reported : AgentMsgKind → Bool
  | .turnOutput => true
  | .control => true
  | .trace => true
  | _ => false

def step (st : State) : Label → Option State
  | .groupNew name tokenHash now =>
    let (groups, created) := st.groups.groupCreate name now
    some (if created then { st with groups, primes := st.primes ++ [(name, tokenHash)] } else st)
  | .registerPrime k =>
    (st.primes[k]?).map fun p =>
      { st with
        agents := (st.agents.agentRegister (primeRow p.1 p.2)).1
        primes := st.primes.eraseIdx k }
  | .spawn tokenHash group session mode initialPrompt coordinator childHash now =>
    match st.requestSpawn tokenHash group session mode initialPrompt coordinator childHash now with
    | .ok sp => some { st with spawns := st.spawns ++ [sp] }
    | .error _ => some st
  | .spawnStep k outcome now =>
    (st.spawns[k]?).map fun sp =>
      let (st', sp') := st.runSpawn sp outcome now
      { st' with spawns := st.spawns.set k sp' }
  | .spawnEnd k => some { st with spawns := st.spawns.eraseIdx k }
  | .agentSend tokenHash session kind payload =>
    match st.agentSend tokenHash session kind payload with
    | .ok out => some { st with outgoing := st.outgoing ++ [out] }
    | .error _ => some st
  | .sendMessage group session kind text =>
    match st.sendMessage group session kind text with
    | .ok out => some { st with outgoing := st.outgoing ++ [out] }
    | .error _ => some st
  | .broadcastMessage group kind text =>
    some { st with outgoing := st.outgoing ++ st.broadcastMessage group kind text }
  | .report group session kind payload =>
    match st.sessions.sessionGet group session with
    | some sess =>
      if reported kind then
        some { st with outgoing := st.outgoing ++
          [⟨group, session, sess.childAgent, sess.primeAgent, kind, payload⟩] }
      else none
    | none => none
  | .post k now =>
    match st.outgoing[k]? with
    | some out =>
      match st.busEnqueue out now with
      | .ok (st', _) => some { st' with outgoing := st.outgoing.eraseIdx k }
      | .error _ => none
    | none => none
  | .drop k => some { st with outgoing := st.outgoing.eraseIdx k }
  | .markConsumed group session seq now =>
    some { st with bus := st.bus.agentMsgMarkConsumed group session seq now }
  | .setStatus group agent status =>
    some { st with agents := st.agents.agentSetStatus group agent status }
  | .sessionClose group session =>
    some { st with sessions := st.sessions.sessionClose group session }
  | .reconcile =>
    let (agents, sessions) := reconcileStaleAgents st.agents st.sessions
    some { st with agents, sessions }

end WalkieTalkie.Orchestration.Requests
