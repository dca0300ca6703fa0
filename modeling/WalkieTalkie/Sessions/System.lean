import WalkieTalkie.Lib.Runs
import WalkieTalkie.Orchestration.Clients
import WalkieTalkie.Sessions.Harness

/-! Any number of sessions over one store: each is spawned, and its supervisor then reads the stdout of
its harness, feeds it turn inputs and reports to the prime, from one await to the next. Store jobs
succeed. A supervisor keeps what it has read of the stdout and the events that it has been given, and
`eof` tells that it has read the exit of the harness. Time and the outcome of reads and writes are
chosen by the labels, in nanoseconds where the source has durations. -/

namespace WalkieTalkie.Sessions

open Proto Store Lib
open Orchestration (SpawnPc)
open Orchestration.Clients (Sorting)
open Orchestration.Requests (Spawn Outgoing textBytes primeRow)

abbrev Db := Orchestration.Requests.State

inductive Phase
  | pending (timer : Bool)
  | feed (rows : List AgentMsgRow) (fed : ℕ) (timer : Bool)
  | markConsumed (row : AgentMsgRow) (rest : List AgentMsgRow) (fed : ℕ) (timer : Bool)
  | setRunning (rest : List AgentMsgRow) (fed : ℕ) (timer : Bool)
  | idleCheck
  | idleNotice (idle : ℕ)
  | select
  | trace (text : String)
  | turnOutput (result : String)
  | setAwaiting
  | touch
  | setExited (reason : String)
  | exitNotice (reason : String)
  | ended
deriving DecidableEq

structure Supervisor where
  group : String
  session : String
  prime : String
  trace : Bool
  idleTimeout : Option ℕ
  turnActive : Bool
  idleNotified : Bool
  phase : Phase
  buf : Bytes
  stdout : Bytes
  events : List HarnessEvent
  eof : Bool
deriving DecidableEq

structure Session where
  spawn : Spawn
  trace : Bool
  idleTimeout : Option ℕ
  supervisor : Option Supervisor

structure State where
  store : Db
  sessions : List Session

def initial : State := ⟨Orchestration.Requests.initial, []⟩

/-- What an await of a supervisor ends with. -/
inductive Input
  | done
  | written (ok : Bool)
  | elapsed (idle : ℕ)
  | read (read : Read)
  | woken
  | timer

inductive Label
  | groupNew (group : String) (tokenHash : Bytes)
  | send (out : Outgoing) (now : UInt64)
  | markConsumed (group session : String) (seq : ℕ) (now : UInt64)
  | spawn (prime group session : String) (mode : FsMode) (initialPrompt : String)
      (coordinator : Bool) (tokenHash : Bytes) (now : UInt64) (trace : Bool) (idleTimeout : Option ℕ)
  | spawnStep (k : ℕ) (outcome : Bool) (now : UInt64)
  | supervisor (k : ℕ) (input : Input) (now : UInt64)

def exitText : Option Int32 → String
  | none => "child exited (code None)"
  | some code => "child exited (code Some(" ++ toString code.toInt ++ "))"

def idleText (idle : ℕ) : String :=
  "turn idle for " ++ toString (idle / 1000000000) ++ "s — harness still running"

namespace Supervisor

def post (sup : Supervisor) (store : Db) (kind : AgentMsgKind) (text : String) (now : UInt64)
    (phase : Phase) : Option (Db × Supervisor) :=
  match store.busEnqueue ⟨sup.group, sup.session, sup.session, sup.prime, kind, textBytes text⟩ now with
  | .ok (store', _) => some (store', { sup with phase })
  | .error _ => none

def setStatus (sup : Supervisor) (store : Db) (status : AgentStatus) : Db :=
  { store with agents := store.agents.agentSetStatus sup.group sup.session status }

def drained (sup : Supervisor) (fed : ℕ) (timer : Bool) : Supervisor :=
  { sup with
    turnActive := sup.turnActive || 0 < fed
    idleNotified := sup.idleNotified && fed = 0
    phase := if timer then .idleCheck else .select }

def checkIdle (sup : Supervisor) (idle : ℕ) : Supervisor :=
  if sup.turnActive && !sup.idleNotified && sup.idleTimeout.any (· ≤ idle) then
    { sup with idleNotified := true, phase := .idleNotice idle }
  else { sup with phase := .select }

def handle (sup : Supervisor) (read : Read) : Except String (Option HarnessEvent) → Supervisor
  | .ok none =>
    match read with
    | .chunk bytes => { sup with stdout := sup.stdout ++ bytes }
    | _ => sup
  | .ok (some (.assistantText text)) =>
    { sup with
      events := sup.events ++ [.assistantText text]
      idleNotified := false
      phase := if sup.trace then .trace text else .select }
  | .ok (some (.turnComplete result isError)) =>
    { sup with
      events := sup.events ++ [.turnComplete result isError]
      turnActive := false
      idleNotified := false
      phase := .turnOutput result }
  | .ok (some (.exited code)) => { sup with eof := true, phase := .setExited (exitText code) }
  | .error _ => { sup with phase := .setExited "harness read error" }

end Supervisor

def runSupervisor (fromStr : String → Option Json) (O : Sorting) (store : Db) (sup : Supervisor)
    (now : UInt64) (input : Input) : Option (Db × Supervisor) :=
  match sup.phase, input with
  | .pending timer, .done =>
    let rows := O.pending (store.bus.pending sup.group sup.session .turnInput)
    some (store, { sup with phase := .feed rows 0 timer })
  | .feed [] fed timer, .done => some (store, sup.drained fed timer)
  | .feed (row :: rest) fed timer, .written ok =>
    some (store, { sup with
      phase := if ok then .markConsumed row rest fed timer else .setExited "harness write failed" })
  | .markConsumed row rest fed timer, .done =>
    some ({ store with bus := store.bus.agentMsgMarkConsumed sup.group row.sessionName row.seq now },
      { sup with phase := .setRunning rest fed timer })
  | .setRunning rest fed timer, .done =>
    some (sup.setStatus store .running, { sup with phase := .feed rest (fed + 1) timer })
  | .idleCheck, .elapsed idle => some (store, sup.checkIdle idle)
  | .idleNotice idle, .done => sup.post store .control (idleText idle) now .select
  | .select, .read read =>
    let (answer, buf) := nextEvent fromStr sup.buf read
    some (store, { sup with buf }.handle read answer)
  | .select, .woken => some (store, { sup with phase := .pending false })
  | .select, .timer => some (store, { sup with phase := .touch })
  | .trace text, .done => sup.post store .trace text now .select
  | .turnOutput result, .done => sup.post store .turnOutput result now .setAwaiting
  | .setAwaiting, .done => some (sup.setStatus store .awaitingInput, { sup with phase := .select })
  | .touch, .done => some (store, { sup with phase := .pending true })
  | .setExited reason, .done =>
    some (sup.setStatus store .exited, { sup with phase := .exitNotice reason })
  | .exitNotice reason, .done => sup.post store .control reason now .ended
  | _, _ => none

/-- The supervisor that `start` launches. -/
def Session.launched (se : Session) : Supervisor where
  group := se.spawn.group
  session := se.spawn.session
  prime := se.spawn.prime
  trace := se.trace
  idleTimeout := se.idleTimeout
  turnActive := se.spawn.initialPrompt ≠ ""
  idleNotified := false
  phase := .pending false
  buf := []
  stdout := []
  events := []
  eof := false

def Session.stepped (se : Session) (spawn : Spawn) : Session :=
  { se with
    spawn
    supervisor := if se.spawn.pc = .spawnTask then some se.launched else se.supervisor }

def step (fromStr : String → Option Json) (O : Sorting) (st : State) : Label → Option State
  | .groupNew group tokenHash =>
    some { st with store := { st.store with
      agents := (st.store.agents.agentRegister (primeRow group tokenHash)).1 } }
  | .send out now =>
    match st.store.busEnqueue out now with
    | .ok (store, _) => some { st with store }
    | .error _ => none
  | .markConsumed group session seq now =>
    some { st with store := { st.store with
      bus := st.store.bus.agentMsgMarkConsumed group session seq now } }
  | .spawn prime group session mode initialPrompt coordinator tokenHash now trace idleTimeout =>
    let spawn : Spawn := ⟨prime, group, session, mode, initialPrompt, coordinator, tokenHash, now,
      .sessionGet, 0⟩
    some { st with sessions := st.sessions ++ [⟨spawn, trace, idleTimeout, none⟩] }
  | .spawnStep k outcome now =>
    match st.sessions[k]? with
    | none => none
    | some se =>
      let (store, spawn) := st.store.runSpawn se.spawn outcome now
      some ⟨store, st.sessions.set k (se.stepped spawn)⟩
  | .supervisor k input now =>
    match st.sessions[k]? with
    | none => none
    | some se =>
      match se.supervisor with
      | none => none
      | some sup =>
        match runSupervisor fromStr O st.store sup now input with
        | none => none
        | some (store, sup') => some ⟨store, st.sessions.set k { se with supervisor := some sup' }⟩

/-- What a supervisor has read from its harness and is about to report. -/
def Phase.due : Phase → List (AgentMsgKind × String)
  | .trace text => [(.trace, text)]
  | .turnOutput result => [(.turnOutput, result)]
  | _ => []

/-- A turn that was completed is not on its way to the prime. -/
def Phase.Free (phase : Phase) : Prop := phase.due = [] ∧ phase ≠ .setAwaiting

/-- The supervisor is on its way to its end. -/
def Phase.closing : Phase → Bool
  | .setExited _ => true
  | .exitNotice _ => true
  | .ended => true
  | _ => false

/-- A phase that leads from `phase` to one in which nothing is due either. -/
structure Phase.Onward (phase phase' : Phase) : Prop where
  free : phase.Free
  free' : phase'.Free
  closing : phase.closing = true → phase'.closing = true

def Phase.reporting : Phase → Bool
  | .trace _ => true
  | .turnOutput _ => true
  | .setAwaiting => true
  | _ => false

lemma Phase.free_of_not_reporting {phase : Phase} (h : phase.reporting = false) : phase.Free := by
  cases phase with
  | trace => cases h
  | turnOutput => cases h
  | setAwaiting => cases h
  | _ => exact ⟨rfl, Phase.noConfusion⟩

lemma Phase.onward {phase phase' : Phase} (h : phase.reporting = false)
    (h' : phase'.reporting = false) (hclosing : phase.closing = true → phase'.closing = true) :
    phase.Onward phase' :=
  ⟨Phase.free_of_not_reporting h, Phase.free_of_not_reporting h', hclosing⟩

inductive Acts (fromStr : String → Option Json) (store : Db) (sup : Supervisor) (now : UInt64) :
    Db → Supervisor → Prop
  | move {phase turnActive idleNotified} (honward : sup.phase.Onward phase) :
      Acts fromStr store sup now store { sup with phase, turnActive, idleNotified }
  | mark {session seq phase} (honward : sup.phase.Onward phase) :
      Acts fromStr store sup now
        { store with bus := store.bus.agentMsgMarkConsumed sup.group session seq now }
        { sup with phase }
  | status {status phase} (honward : sup.phase.Onward phase) (hstatus : status ≠ .awaitingInput) :
      Acts fromStr store sup now (sup.setStatus store status) { sup with phase }
  | await (hphase : sup.phase = .setAwaiting) :
      Acts fromStr store sup now (sup.setStatus store .awaitingInput) { sup with phase := .select }
  | notice {text seq store' phase} (honward : sup.phase.Onward phase)
      (henq : store.busEnqueue ⟨sup.group, sup.session, sup.session, sup.prime, .control,
        textBytes text⟩ now = .ok (store', seq)) :
      Acts fromStr store sup now store' { sup with phase }
  | trace {text seq store'} (hphase : sup.phase = .trace text)
      (henq : store.busEnqueue ⟨sup.group, sup.session, sup.session, sup.prime, .trace,
        textBytes text⟩ now = .ok (store', seq)) :
      Acts fromStr store sup now store' { sup with phase := .select }
  | output {result seq store'} (hphase : sup.phase = .turnOutput result)
      (henq : store.busEnqueue ⟨sup.group, sup.session, sup.session, sup.prime, .turnOutput,
        textBytes result⟩ now = .ok (store', seq)) :
      Acts fromStr store sup now store' { sup with phase := .setAwaiting }
  | read {read answer buf} (hphase : sup.phase = .select)
      (hnext : nextEvent fromStr sup.buf read = (answer, buf)) :
      Acts fromStr store sup now store ({ sup with buf }.handle read answer)

lemma post_eq {sup sup' : Supervisor} {store store' : Db} {kind : AgentMsgKind} {text : String}
    {now : UInt64} {phase : Phase} (h : sup.post store kind text now phase = some (store', sup')) :
    sup' = { sup with phase } ∧ ∃ seq, store.busEnqueue ⟨sup.group, sup.session, sup.session,
      sup.prime, kind, textBytes text⟩ now = .ok (store', seq) := by
  rw [Supervisor.post] at h
  split at h
  · next henq =>
    obtain ⟨rfl, rfl⟩ := Prod.mk.inj (Option.some.inj h)
    exact ⟨rfl, _, henq⟩
  · cases h

lemma runSupervisor_acts {fromStr : String → Option Json} {O : Sorting} {store store' : Db}
    {sup sup' : Supervisor} {now : UInt64} {input : Input}
    (h : runSupervisor fromStr O store sup now input = some (store', sup')) :
    Acts fromStr store sup now store' sup' := by
  unfold runSupervisor at h
  split at h
  · next hphase =>
    obtain ⟨rfl, rfl⟩ := Prod.mk.inj (Option.some.inj h)
    exact .move (hphase ▸ Phase.onward rfl rfl Bool.noConfusion)
  · next timer hphase =>
    obtain ⟨rfl, rfl⟩ := Prod.mk.inj (Option.some.inj h)
    refine .move (hphase ▸ Phase.onward rfl ?_ Bool.noConfusion)
    cases timer with
    | true => rfl
    | false => rfl
  · next ok hphase =>
    obtain ⟨rfl, rfl⟩ := Prod.mk.inj (Option.some.inj h)
    refine .move (hphase ▸ Phase.onward rfl ?_ Bool.noConfusion)
    cases ok with
    | true => rfl
    | false => rfl
  · next hphase =>
    obtain ⟨rfl, rfl⟩ := Prod.mk.inj (Option.some.inj h)
    exact .mark (hphase ▸ Phase.onward rfl rfl Bool.noConfusion)
  · next hphase =>
    obtain ⟨rfl, rfl⟩ := Prod.mk.inj (Option.some.inj h)
    exact .status (hphase ▸ Phase.onward rfl rfl Bool.noConfusion)
      AgentStatus.noConfusion
  · next hphase =>
    obtain ⟨rfl, rfl⟩ := Prod.mk.inj (Option.some.inj h)
    rw [Supervisor.checkIdle]
    split
    · exact .move (hphase ▸ Phase.onward rfl rfl Bool.noConfusion)
    · exact .move (hphase ▸ Phase.onward rfl rfl Bool.noConfusion)
  · next hphase =>
    obtain ⟨rfl, _, henq⟩ := post_eq h
    exact .notice (hphase ▸ Phase.onward rfl rfl Bool.noConfusion) henq
  · next hphase =>
    obtain ⟨rfl, rfl⟩ := Prod.mk.inj (Option.some.inj h)
    exact .read hphase rfl
  · next hphase =>
    obtain ⟨rfl, rfl⟩ := Prod.mk.inj (Option.some.inj h)
    exact .move (hphase ▸ Phase.onward rfl rfl Bool.noConfusion)
  · next hphase =>
    obtain ⟨rfl, rfl⟩ := Prod.mk.inj (Option.some.inj h)
    exact .move (hphase ▸ Phase.onward rfl rfl Bool.noConfusion)
  · next hphase =>
    obtain ⟨rfl, _, henq⟩ := post_eq h
    exact .trace hphase henq
  · next hphase =>
    obtain ⟨rfl, _, henq⟩ := post_eq h
    exact .output hphase henq
  · next hphase =>
    obtain ⟨rfl, rfl⟩ := Prod.mk.inj (Option.some.inj h)
    exact .await hphase
  · next hphase =>
    obtain ⟨rfl, rfl⟩ := Prod.mk.inj (Option.some.inj h)
    exact .move (hphase ▸ Phase.onward rfl rfl Bool.noConfusion)
  · next hphase =>
    obtain ⟨rfl, rfl⟩ := Prod.mk.inj (Option.some.inj h)
    exact .status (hphase ▸ Phase.onward rfl rfl fun _ => rfl)
      AgentStatus.noConfusion
  · next hphase =>
    obtain ⟨rfl, _, henq⟩ := post_eq h
    exact .notice (hphase ▸ Phase.onward rfl rfl fun _ => rfl) henq
  · cases h

inductive Spawned (store : Db) (sp : Spawn) (now : UInt64) : Db → Spawn → Prop
  | move {ok} (hregister : sp.pc ≠ .agentRegister) (hcreate : sp.pc ≠ .sessionCreate) :
      Spawned store sp now store { sp with pc := sp.pc.next sp.request ok }
  | register (hpc : sp.pc = .agentRegister) :
      Spawned store sp now { store with agents := (store.agents.agentRegister sp.agentRow).1 }
        { sp with pc := sp.pc.next sp.request (store.agents.agentRegister sp.agentRow).2 }
  | create (hpc : sp.pc = .sessionCreate) :
      Spawned store sp now { store with sessions := (store.sessions.sessionCreate sp.sessionRow).1 }
        { sp with pc := sp.pc.next sp.request (store.sessions.sessionCreate sp.sessionRow).2 }
  | status {status} (hregister : sp.pc ≠ .agentRegister) (hcreate : sp.pc ≠ .sessionCreate)
      (hstatus : status ≠ .awaitingInput) :
      Spawned store sp now
        { store with agents := store.agents.agentSetStatus sp.group sp.session status }
        { sp with pc := sp.pc.next sp.request true }
  | record {store' seq} (hpc : sp.pc = .recordPrompt)
      (henq : store.busEnqueue ⟨sp.group, sp.session, sp.prime, sp.session, .turnInput,
        textBytes sp.initialPrompt⟩ now = .ok (store', seq)) :
      Spawned store sp now store' { sp with pc := sp.pc.next sp.request true, prompt := seq }
  | consume (hpc : sp.pc = .consumePrompt) :
      Spawned store sp now
        { store with bus := store.bus.agentMsgMarkConsumed sp.group sp.session sp.prompt now }
        { sp with pc := sp.pc.next sp.request true }

lemma runOp_spawned {store : Db} {sp : Spawn} {op : Orchestration.Op} (now : UInt64)
    (heff : sp.pc.effect = .store op) :
    Spawned store sp now (store.runOp sp op).1
      { sp with pc := sp.pc.next sp.request (store.runOp sp op).2 } := by
  have hne : ∀ {pc : SpawnPc}, pc.effect ≠ .store op → sp.pc ≠ pc := fun hpc h => hpc (h ▸ heff)
  cases op with
  | sessionGet => exact .move (hne (by decide)) (hne (by decide))
  | agentGet => exact .move (hne (by decide)) (hne (by decide))
  | agentRegister =>
    apply Spawned.register
    cases hpc : sp.pc <;> simp [hpc, SpawnPc.effect] at heff ⊢
  | sessionCreate =>
    apply Spawned.create
    cases hpc : sp.pc <;> simp [hpc, SpawnPc.effect] at heff ⊢
  | agentSetStatus status =>
    refine .status (hne (by simp [SpawnPc.effect])) (hne (by simp [SpawnPc.effect])) ?_
    rintro rfl
    cases hpc : sp.pc <;> simp [hpc, SpawnPc.effect] at heff
  | sessionClose => cases hpc : sp.pc <;> simp [hpc, SpawnPc.effect] at heff
  | bus => exact .move (hne (by decide)) (hne (by decide))

lemma runSpawn_spawned (store : Db) (sp : Spawn) (outcome : Bool) (now : UInt64) :
    Spawned store sp now (store.runSpawn sp outcome now).1 (store.runSpawn sp outcome now).2 := by
  unfold Orchestration.Requests.State.runSpawn
  split
  · next hpc =>
    split
    · next henq => exact .record hpc henq
    · exact .move (by rw [hpc]; exact SpawnPc.noConfusion) (by rw [hpc]; exact SpawnPc.noConfusion)
  · next hpc => exact .consume hpc
  · split
    · next heff => exact runOp_spawned now heff
    · next heff =>
      refine .move (fun hpc => ?_) fun hpc => ?_
      · exact heff .agentRegister (by rw [hpc]; rfl)
      · exact heff .sessionCreate (by rw [hpc]; rfl)

inductive Moves (fromStr : String → Option Json) (st : State) : Label → State → Prop
  | groupNew {group tokenHash} : Moves fromStr st (.groupNew group tokenHash)
      { st with store := { st.store with
        agents := (st.store.agents.agentRegister (primeRow group tokenHash)).1 } }
  | send {out now store seq} (henq : st.store.busEnqueue out now = .ok (store, seq)) :
      Moves fromStr st (.send out now) { st with store }
  | markConsumed {group session seq now} : Moves fromStr st (.markConsumed group session seq now)
      { st with store := { st.store with
        bus := st.store.bus.agentMsgMarkConsumed group session seq now } }
  | spawn {prime group session mode initialPrompt coordinator tokenHash now trace idleTimeout} :
      Moves fromStr st
        (.spawn prime group session mode initialPrompt coordinator tokenHash now trace idleTimeout)
        { st with sessions := st.sessions ++ [⟨⟨prime, group, session, mode, initialPrompt, coordinator,
          tokenHash, now, .sessionGet, 0⟩, trace, idleTimeout, none⟩] }
  | spawnStep {k outcome now se store sp} (hse : st.sessions[k]? = some se)
      (hspawned : Spawned st.store se.spawn now store sp) :
      Moves fromStr st (.spawnStep k outcome now) ⟨store, st.sessions.set k (se.stepped sp)⟩
  | supervisor {k input now se sup store sup'} (hse : st.sessions[k]? = some se)
      (hsup : se.supervisor = some sup) (hacts : Acts fromStr st.store sup now store sup') :
      Moves fromStr st (.supervisor k input now)
        ⟨store, st.sessions.set k { se with supervisor := some sup' }⟩

lemma step_moves {fromStr : String → Option Json} {O : Sorting} {st st' : State} {l : Label}
    (h : step fromStr O st l = some st') : Moves fromStr st l st' := by
  cases l with
  | groupNew group tokenHash =>
    obtain rfl := Option.some.inj h
    exact .groupNew
  | send out now =>
    simp only [step] at h
    split at h
    · next henq =>
      obtain rfl := Option.some.inj h
      exact .send henq
    · cases h
  | markConsumed group session seq now =>
    obtain rfl := Option.some.inj h
    exact .markConsumed
  | spawn prime group session mode initialPrompt coordinator tokenHash now trace idleTimeout =>
    obtain rfl := Option.some.inj h
    exact .spawn
  | spawnStep k outcome now =>
    simp only [step] at h
    split at h
    · cases h
    · next hse =>
      obtain rfl := Option.some.inj h
      exact .spawnStep hse (runSpawn_spawned ..)
  | supervisor k input now =>
    simp only [step] at h
    split at h
    · cases h
    · next hse =>
      split at h
      · cases h
      · next hsup =>
        split at h
        · cases h
        · next hrun =>
          obtain rfl := Option.some.inj h
          exact .supervisor hse hsup (runSupervisor_acts hrun)

end WalkieTalkie.Sessions
