import Mathlib.Data.List.Nodup
import WalkieTalkie.Lib.Runs
import WalkieTalkie.Lib.Utf8
import WalkieTalkie.Store.Ledger

/-! The message bus with its readers: the supervisors that feed turn inputs to their harnesses, and
the `AgentRecv` requests. Messages are enqueued by anyone at any time, a supervisor may look for
pending turn inputs whenever it is between two drains, whatever woke it, and a request sees live
events of any earlier message or misses them. `log` keeps every row as it was enqueued. -/

namespace WalkieTalkie.Turns

open Proto Store Lib

/-- The names that the run spawns, by group. -/
structure Setting where
  spawned : String → String → Bool

inductive Phase
  | recording
  | consuming (seq : ℕ)
  | waiting
  | feeding (rows : List AgentMsgRow)
  | marking (row : AgentMsgRow) (rest : List AgentMsgRow)
  | ended
deriving DecidableEq

/-- A supervisor with the texts its harness has been sent, the rows its drains fed, the number of
the recorded prompt, and how many messages there were at its last query. -/
structure Supervisor where
  group : String
  child : String
  prime : String
  initialPrompt : String
  phase : Phase
  sent : List String
  fed : List AgentMsgRow
  prompt : Option ℕ
  seen : ℕ
deriving DecidableEq

inductive Reading
  | sending (rows : List AgentMsgRow)
  | marking (row : AgentMsgRow) (rest : List AgentMsgRow)
deriving DecidableEq

structure Recv where
  group : String
  agent : String
  session : Option String
  follow : Bool
  consume : Bool
  reading : Reading
deriving DecidableEq

structure State where
  table : BusTable
  log : List AgentMsgRow
  supervisors : List Supervisor
  recvs : List Recv

def initial : State := ⟨Table.empty, [], [], []⟩

inductive Label
  | enqueue (group session fromAgent toAgent : String) (kind : AgentMsgKind) (payload : Bytes)
      (now : UInt64)
  | launch (group child prime prompt : String)
  | recordPrompt (k : ℕ) (now : UInt64)
  | consumePrompt (k : ℕ) (now : UInt64)
  | query (k : ℕ) (rows : List AgentMsgRow)
  | sendTurn (k : ℕ)
  | markConsumed (k : ℕ) (now : UInt64)
  | drained (k : ℕ)
  | stop (k : ℕ)
  | recvQuery (group agent : String) (session : Option String) (sinceMs : Option UInt64)
      (follow consume : Bool) (rows : List AgentMsgRow)
  | recvBacklog (j : ℕ)
  | recvLive (j : ℕ) (row : AgentMsgRow)
  | recvMark (j : ℕ) (now : UInt64)
  | recvEnd (j : ℕ)

def Phase.batch : Phase → List AgentMsgRow
  | .feeding rows => rows
  | .marking _ rest => rest
  | _ => []

def Phase.live : Phase → Bool
  | .waiting => true
  | .feeding _ => true
  | .marking _ _ => true
  | _ => false

def Reading.rows : Reading → List AgentMsgRow
  | .sending rows => rows
  | .marking row rest => row :: rest

def promptBytes (prompt : String) : Bytes := prompt.toUTF8.data.toList

def text (row : AgentMsgRow) : String := Utf8.fromUtf8Lossy row.payload

def Supervisor.opening (sup : Supervisor) : List String :=
  if sup.initialPrompt = "" then [] else [sup.initialPrompt]

def Supervisor.IsInput (sup : Supervisor) (r : AgentMsgRow) : Prop :=
  r.groupName = sup.group ∧ r.toAgent = sup.child ∧ r.kind = .turnInput

def Supervisor.IsPrompt (sup : Supervisor) (r : AgentMsgRow) : Prop :=
  r.sessionName = sup.child ∧ sup.prompt = some r.seq

def Supervisor.launched (group child prime initialPrompt : String) : Supervisor where
  group := group
  child := child
  prime := prime
  initialPrompt := initialPrompt
  phase := if initialPrompt = "" then .waiting else .recording
  sent := if initialPrompt = "" then [] else [initialPrompt]
  fed := []
  prompt := none
  seen := 0

def Recv.wants (r : Recv) (row : AgentMsgRow) : Bool :=
  row.groupName = r.group && row.toAgent = r.agent && r.session.all (row.sessionName = ·)

def Recv.wrote (r : Recv) (row : AgentMsgRow) (rest : List AgentMsgRow) : Recv :=
  { r with reading := if r.consume then .marking row rest else .sending rest }

inductive Step (S : Setting) : State → Label → State → Prop
  | enqueue {st group session fromAgent toAgent kind payload now table row}
      (henq : st.table.agentMsgEnqueue group session fromAgent toAgent kind payload now =
        .ok (table, row)) :
      Step S st (.enqueue group session fromAgent toAgent kind payload now)
        { st with table, log := st.log ++ [row] }
  | launch {st group child prime prompt} (hspawned : S.spawned group child)
      (hnew : ∀ sup ∈ st.supervisors, ¬ (sup.group = group ∧ sup.child = child)) :
      Step S st (.launch group child prime prompt)
        { st with supervisors := st.supervisors ++ [.launched group child prime prompt] }
  | recordPrompt {st k now sup table row} (hk : st.supervisors[k]? = some sup)
      (hphase : sup.phase = .recording)
      (henq : st.table.agentMsgEnqueue sup.group sup.child sup.prime sup.child .turnInput
        (promptBytes sup.initialPrompt) now = .ok (table, row)) :
      Step S st (.recordPrompt k now)
        { st with
          table
          log := st.log ++ [row]
          supervisors := st.supervisors.set k
            { sup with phase := .consuming row.seq, prompt := some row.seq } }
  | consumePrompt {st k now sup seq} (hk : st.supervisors[k]? = some sup)
      (hphase : sup.phase = .consuming seq) :
      Step S st (.consumePrompt k now)
        { st with
          table := st.table.agentMsgMarkConsumed sup.group sup.child seq now
          supervisors := st.supervisors.set k { sup with phase := .waiting } }
  | query {st k rows sup} (hk : st.supervisors[k]? = some sup) (hphase : sup.phase = .waiting)
      (hrows : st.table.AgentMsgPending sup.group sup.child .turnInput rows) :
      Step S st (.query k rows)
        { st with
          supervisors := st.supervisors.set k
            { sup with phase := .feeding rows, seen := st.log.length } }
  | sendTurn {st k sup row rest} (hk : st.supervisors[k]? = some sup)
      (hphase : sup.phase = .feeding (row :: rest)) :
      Step S st (.sendTurn k)
        { st with
          supervisors := st.supervisors.set k
            { sup with
              phase := .marking row rest
              sent := sup.sent ++ [text row]
              fed := sup.fed ++ [row] } }
  | markConsumed {st k now sup row rest} (hk : st.supervisors[k]? = some sup)
      (hphase : sup.phase = .marking row rest) :
      Step S st (.markConsumed k now)
        { st with
          table := st.table.agentMsgMarkConsumed sup.group row.sessionName row.seq now
          supervisors := st.supervisors.set k { sup with phase := .feeding rest } }
  | drained {st k sup} (hk : st.supervisors[k]? = some sup) (hphase : sup.phase = .feeding []) :
      Step S st (.drained k)
        { st with supervisors := st.supervisors.set k { sup with phase := .waiting } }
  | stop {st k sup} (hk : st.supervisors[k]? = some sup) :
      Step S st (.stop k)
        { st with supervisors := st.supervisors.set k { sup with phase := .ended } }
  | recvQuery {st group agent session sinceMs follow consume rows}
      (hrows : st.table.AgentMsgBacklog group agent session (if consume then none else sinceMs)
        10000 consume rows) :
      Step S st (.recvQuery group agent session sinceMs follow consume rows)
        { st with
          recvs := st.recvs ++ [⟨group, agent, session, follow, consume, .sending rows⟩] }
  | recvBacklog {st j recv row rest} (hj : st.recvs[j]? = some recv)
      (hreading : recv.reading = .sending (row :: rest)) :
      Step S st (.recvBacklog j) { st with recvs := st.recvs.set j (recv.wrote row rest) }
  | recvLive {st j recv row} (hj : st.recvs[j]? = some recv)
      (hreading : recv.reading = .sending []) (hfollow : recv.follow = true)
      (hrow : row ∈ st.log) (hwants : recv.wants row = true) :
      Step S st (.recvLive j row) { st with recvs := st.recvs.set j (recv.wrote row []) }
  | recvMark {st j now recv row rest} (hj : st.recvs[j]? = some recv)
      (hreading : recv.reading = .marking row rest) :
      Step S st (.recvMark j now)
        { st with
          table := st.table.agentMsgMarkConsumed recv.group row.sessionName row.seq now
          recvs := st.recvs.set j { recv with reading := .sending rest } }
  | recvEnd {st j} : Step S st (.recvEnd j) { st with recvs := st.recvs.eraseIdx j }

variable {S : Setting} {st st' : State} {l : Label}

lemma bus_cases (hstep : Step S st l st') :
    (st'.table = st.table ∧ st'.log = st.log) ∨
    (∃ group session seq now, st'.table = st.table.agentMsgMarkConsumed group session seq now ∧
      st'.log = st.log) ∨
    ∃ group session fromAgent toAgent kind payload now row,
      st.table.agentMsgEnqueue group session fromAgent toAgent kind payload now =
        .ok (st'.table, row) ∧ st'.log = st.log ++ [row] := by
  cases hstep with
  | enqueue henq => exact Or.inr (Or.inr ⟨_, _, _, _, _, _, _, _, henq, rfl⟩)
  | recordPrompt _ _ henq => exact Or.inr (Or.inr ⟨_, _, _, _, _, _, _, _, henq, rfl⟩)
  | consumePrompt => exact Or.inr (Or.inl ⟨_, _, _, _, rfl, rfl⟩)
  | markConsumed => exact Or.inr (Or.inl ⟨_, _, _, _, rfl, rfl⟩)
  | recvMark => exact Or.inr (Or.inl ⟨_, _, _, _, rfl, rfl⟩)
  | _ => exact Or.inl ⟨rfl, rfl⟩

lemma ledger_step (h : Ledger st.table st.log) (hstep : Step S st l st') :
    Ledger st'.table st'.log := by
  rcases bus_cases hstep with ⟨ht, hl⟩ | ⟨g, s, q, now, ht, hl⟩ |
    ⟨_, _, _, _, _, _, _, row, henq, hl⟩
  · rw [ht, hl]
    exact h
  · rw [ht, hl]
    exact h.mark g s q now
  · rw [hl]
    exact h.enqueue henq

end WalkieTalkie.Turns
