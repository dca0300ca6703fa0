import WalkieTalkie.Lib.Runs
import WalkieTalkie.Orchestration.Clients

/-! `AgentRecv` requests beside the producers of the bus. A producer first commits its row and then
broadcasts it, and may be aborted between the two; a reader subscribes, asks for its backlog, writes
and marks row after row, and then follows the broadcast. Events are lost to a reader that lags. `log`
keeps every row as it was enqueued, and a reader keeps the answer to its query, the rows it has written
completely, and what was waiting for it when it subscribed. -/

namespace WalkieTalkie.Reading

open Proto Store Lib.Runs
open Orchestration.Clients (Sorting)

abbrev Key := String × String × ℕ

inductive Phase
  | subscribed
  | write (rows : List AgentMsgRow)
  | mark (row : AgentMsgRow) (rest : List AgentMsgRow)
  | live
  | liveMark (row : AgentMsgRow)
  | closed
deriving DecidableEq

structure Reader where
  group : String
  agent : String
  session : Option String
  since : Option UInt64
  follow : Bool
  consume : Bool
  phase : Phase
  rx : List AgentMsgRow
  backlog : List AgentMsgRow
  emitted : List AgentMsgRow
  ended : Bool
  waiting : List AgentMsgRow
  opened : ℕ
deriving DecidableEq

structure State where
  agents : AgentTable
  bus : BusTable
  log : List AgentMsgRow
  inFlight : List AgentMsgRow
  readers : List Reader
  supervised : List Key

def initial : State := ⟨AgentTable.empty, Lib.Table.empty, [], [], [], []⟩

inductive Label
  | agents (table : AgentTable)
  | enqueue (group session fromAgent toAgent : String) (kind : AgentMsgKind) (payload : Bytes)
      (now : UInt64)
  | broadcast (i : ℕ)
  | abort (i : ℕ)
  | request (tokenHash : Bytes) (session : Option String) (sinceMs : Option UInt64)
      (follow consume : Bool)
  | run (i : ℕ) (works : Bool) (now : UInt64)
  | lag (i n : ℕ)
  | disconnect (i : ℕ)
  | supervisorMark (group session : String) (seq : ℕ) (now : UInt64)
  | restart

def backlogLimit : ℕ := 10000

def Reader.wants (rd : Reader) (row : AgentMsgRow) : Bool :=
  row.groupName = rd.group && row.toAgent = rd.agent && rd.session.all (row.sessionName = ·)

def Reader.close (rd : Reader) : Reader := { rd with phase := .closed }

def Reader.receive (row : AgentMsgRow) (rd : Reader) : Reader :=
  if rd.phase = .closed then rd else { rd with rx := rd.rx ++ [row] }

def Reader.emit (rd : Reader) (row : AgentMsgRow) (phase : Phase) : Reader :=
  { rd with emitted := rd.emitted ++ [row.unconsumed], phase }

def Reader.query (O : Sorting) (bus : BusTable) (rd : Reader) : List AgentMsgRow :=
  (O.backlog (bus.backlogRows rd.group rd.agent rd.session rd.since rd.consume)).take backlogLimit

def markRow (bus : BusTable) (group : String) (row : AgentMsgRow) (works : Bool) (now : UInt64) :
    BusTable :=
  if works then bus.agentMsgMarkConsumed group row.sessionName row.seq now else bus

def runReader (O : Sorting) (bus : BusTable) (rd : Reader) (works : Bool) (now : UInt64) :
    Option (BusTable × Reader) :=
  match rd.phase with
  | .subscribed =>
    some (bus, { rd with phase := .write (rd.query O bus), backlog := rd.query O bus })
  | .write [] => some (bus, { rd with phase := if rd.follow then .live else .closed, ended := true })
  | .write (row :: rest) =>
    some (bus, rd.emit row (if rd.consume then .mark row rest else .write rest))
  | .mark row rest => some (markRow bus rd.group row works now, { rd with phase := .write rest })
  | .live =>
    match rd.rx with
    | [] => none
    | row :: rest =>
      if rd.wants row then
        some (bus, { rd with rx := rest }.emit row (if rd.consume then .liveMark row else .live))
      else some (bus, { rd with rx := rest })
  | .liveMark row => some (markRow bus rd.group row works now, { rd with phase := .live })
  | .closed => none

def subscribe (st : State) (me : AgentRow) (session : Option String) (sinceMs : Option UInt64)
    (follow consume : Bool) : Reader :=
  let rd : Reader := ⟨me.groupName, me.name, session, if consume then none else sinceMs, follow,
    consume, .subscribed, [], [], [], false, [], st.log.length⟩
  { rd with waiting := st.bus.rows.filter fun r => rd.wants r && r.consumedAtMs = none }

def step (O : Sorting) (st : State) : Label → Option State
  | .agents agents => some { st with agents }
  | .enqueue group session fromAgent toAgent kind payload now =>
    match st.bus.agentMsgEnqueue group session fromAgent toAgent kind payload now with
    | .error _ => none
    | .ok (bus, row) =>
      some { st with bus, log := st.log ++ [row], inFlight := st.inFlight ++ [row] }
  | .broadcast i =>
    match st.inFlight[i]? with
    | none => none
    | some row =>
      some { st with
        inFlight := st.inFlight.eraseIdx i
        readers := st.readers.map (Reader.receive row) }
  | .abort i => some { st with inFlight := st.inFlight.eraseIdx i }
  | .request tokenHash session sinceMs follow consume =>
    match st.agents.agentByToken tokenHash with
    | none => none
    | some me =>
      some { st with readers := st.readers ++ [subscribe st me session sinceMs follow consume] }
  | .run i works now =>
    match st.readers[i]? with
    | none => none
    | some rd =>
      match runReader O st.bus rd works now with
      | none => none
      | some (bus, rd') => some { st with bus, readers := st.readers.set i rd' }
  | .lag i n =>
    match st.readers[i]? with
    | none => none
    | some rd => some { st with readers := st.readers.set i { rd with rx := rd.rx.drop n } }
  | .disconnect i =>
    match st.readers[i]? with
    | none => none
    | some rd => some { st with readers := st.readers.set i rd.close }
  | .supervisorMark group session seq now =>
    some { st with
      bus := st.bus.agentMsgMarkConsumed group session seq now
      supervised := (group, session, seq) :: st.supervised }
  | .restart => some { st with inFlight := [], readers := st.readers.map Reader.close }

/-- Every step that a reader can take. -/
inductive Ran (O : Sorting) (bus : BusTable) (rd : Reader) (works : Bool) (now : UInt64) :
    BusTable → Reader → Prop
  | query (h : rd.phase = .subscribed) : Ran O bus rd works now bus
      { rd with phase := .write (rd.query O bus), backlog := rd.query O bus }
  | backlogEnd (h : rd.phase = .write []) : Ran O bus rd works now bus
      { rd with phase := if rd.follow then .live else .closed, ended := true }
  | write {row rest} (h : rd.phase = .write (row :: rest)) : Ran O bus rd works now bus
      (rd.emit row (if rd.consume then .mark row rest else .write rest))
  | mark {row rest} (h : rd.phase = .mark row rest) :
      Ran O bus rd works now (markRow bus rd.group row works now) { rd with phase := .write rest }
  | recv {row rest} (h : rd.phase = .live) (hrx : rd.rx = row :: rest) (hw : rd.wants row = true) :
      Ran O bus rd works now bus
        ({ rd with rx := rest }.emit row (if rd.consume then .liveMark row else .live))
  | skip {row rest} (h : rd.phase = .live) (hrx : rd.rx = row :: rest) (hw : rd.wants row = false) :
      Ran O bus rd works now bus { rd with rx := rest }
  | liveMark {row} (h : rd.phase = .liveMark row) :
      Ran O bus rd works now (markRow bus rd.group row works now) { rd with phase := .live }

lemma runReader_ran {O : Sorting} {bus bus' : BusTable} {rd rd' : Reader} {works : Bool}
    {now : UInt64} (h : runReader O bus rd works now = some (bus', rd')) :
    Ran O bus rd works now bus' rd' := by
  rw [runReader] at h
  split at h
  · next hphase =>
    obtain ⟨rfl, rfl⟩ := Prod.mk.inj (Option.some.inj h)
    exact .query hphase
  · next hphase =>
    obtain ⟨rfl, rfl⟩ := Prod.mk.inj (Option.some.inj h)
    exact .backlogEnd hphase
  · next hphase =>
    obtain ⟨rfl, rfl⟩ := Prod.mk.inj (Option.some.inj h)
    exact .write hphase
  · next hphase =>
    obtain ⟨rfl, rfl⟩ := Prod.mk.inj (Option.some.inj h)
    exact .mark hphase
  · next hphase =>
    split at h
    · cases h
    · next hrx =>
      split at h
      · next hw =>
        obtain ⟨rfl, rfl⟩ := Prod.mk.inj (Option.some.inj h)
        exact .recv hphase hrx hw
      · next hw =>
        obtain ⟨rfl, rfl⟩ := Prod.mk.inj (Option.some.inj h)
        exact .skip hphase hrx (by simpa using hw)
  · next hphase =>
    obtain ⟨rfl, rfl⟩ := Prod.mk.inj (Option.some.inj h)
    exact .liveMark hphase
  · cases h

/-- Every step of the system. -/
inductive Moves (O : Sorting) (st : State) : Label → State → Prop
  | agents {agents} : Moves O st (.agents agents) { st with agents }
  | enqueue {group session fromAgent toAgent kind payload now bus row}
      (h : st.bus.agentMsgEnqueue group session fromAgent toAgent kind payload now =
        .ok (bus, row)) :
      Moves O st (.enqueue group session fromAgent toAgent kind payload now)
        { st with bus, log := st.log ++ [row], inFlight := st.inFlight ++ [row] }
  | broadcast {i row} (h : st.inFlight[i]? = some row) : Moves O st (.broadcast i)
      { st with
        inFlight := st.inFlight.eraseIdx i
        readers := st.readers.map (Reader.receive row) }
  | abort {i} : Moves O st (.abort i) { st with inFlight := st.inFlight.eraseIdx i }
  | request {tokenHash session sinceMs follow consume me}
      (h : st.agents.agentByToken tokenHash = some me) :
      Moves O st (.request tokenHash session sinceMs follow consume)
        { st with readers := st.readers ++ [subscribe st me session sinceMs follow consume] }
  | run {i works now rd bus rd'} (h : st.readers[i]? = some rd)
      (hran : Ran O st.bus rd works now bus rd') :
      Moves O st (.run i works now) { st with bus, readers := st.readers.set i rd' }
  | lag {i n rd} (h : st.readers[i]? = some rd) :
      Moves O st (.lag i n) { st with readers := st.readers.set i { rd with rx := rd.rx.drop n } }
  | disconnect {i rd} (h : st.readers[i]? = some rd) :
      Moves O st (.disconnect i) { st with readers := st.readers.set i rd.close }
  | supervisorMark {group session seq now} : Moves O st (.supervisorMark group session seq now)
      { st with
        bus := st.bus.agentMsgMarkConsumed group session seq now
        supervised := (group, session, seq) :: st.supervised }
  | restart : Moves O st .restart { st with inFlight := [], readers := st.readers.map Reader.close }

lemma step_moves {O : Sorting} {st st' : State} {l : Label} (h : step O st l = some st') :
    Moves O st l st' := by
  cases l with
  | agents agents =>
    obtain rfl := Option.some.inj h
    exact .agents
  | enqueue group session fromAgent toAgent kind payload now =>
    simp only [step] at h
    split at h
    · cases h
    · next henq =>
      obtain rfl := Option.some.inj h
      exact .enqueue henq
  | broadcast i =>
    simp only [step] at h
    split at h
    · cases h
    · next hrow =>
      obtain rfl := Option.some.inj h
      exact .broadcast hrow
  | abort i =>
    obtain rfl := Option.some.inj h
    exact .abort
  | request tokenHash session sinceMs follow consume =>
    simp only [step] at h
    split at h
    · cases h
    · next hme =>
      obtain rfl := Option.some.inj h
      exact .request hme
  | run i works now =>
    simp only [step] at h
    split at h
    · cases h
    · next hrd =>
      split at h
      · cases h
      · next hran =>
        obtain rfl := Option.some.inj h
        exact .run hrd (runReader_ran hran)
  | lag i n =>
    simp only [step] at h
    split at h
    · cases h
    · next hrd =>
      obtain rfl := Option.some.inj h
      exact .lag hrd
  | disconnect i =>
    simp only [step] at h
    split at h
    · cases h
    · next hrd =>
      obtain rfl := Option.some.inj h
      exact .disconnect hrd
  | supervisorMark group session seq now =>
    obtain rfl := Option.some.inj h
    exact .supervisorMark
  | restart =>
    obtain rfl := Option.some.inj h
    exact .restart

def Phase.rest : Phase → List AgentMsgRow
  | .write rows => rows
  | .mark _ rest => rest
  | _ => []

def Phase.marking : Phase → Option AgentMsgRow
  | .mark row _ => some row
  | .liveMark row => some row
  | _ => none

lemma markRow_cases (bus : BusTable) (group : String) (row : AgentMsgRow) (works : Bool)
    (now : UInt64) : markRow bus group row works now = bus ∨
      markRow bus group row works now = bus.agentMsgMarkConsumed group row.sessionName row.seq now := by
  cases works with
  | true => exact Or.inr rfl
  | false => exact Or.inl rfl

lemma Ran.bus {O : Sorting} {bus bus' : BusTable} {rd rd' : Reader} {works : Bool} {now : UInt64}
    (h : Ran O bus rd works now bus' rd') : bus' = bus ∨ ∃ row, rd.phase.marking = some row ∧
      bus' = bus.agentMsgMarkConsumed rd.group row.sessionName row.seq now := by
  cases h with
  | query | backlogEnd | write | recv | skip => exact Or.inl rfl
  | mark hphase =>
    exact (markRow_cases ..).imp_right fun h => ⟨_, by rw [hphase]; rfl, h⟩
  | liveMark hphase =>
    exact (markRow_cases ..).imp_right fun h => ⟨_, by rw [hphase]; rfl, h⟩

end WalkieTalkie.Reading
