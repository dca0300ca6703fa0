import WalkieTalkie.Lib.Runs
import WalkieTalkie.Orchestration.Spawn

/-! One spawn, the supervisor task it launches, and one kill or close of the same name, over the
store's job queue. A call submits its job, the store thread executes jobs in order, and the answer
lets the caller go on. The supervisor runs from one await to the next: `running p` is on its way to
the await `p`, `waiting p` is suspended there. Aborting it leaves a running segment running and
stops it at the await. What the file system, the harness and the bus do is a choice of the label. -/

namespace WalkieTalkie.Orchestration.Lifecycle

open Proto Store Lib.Runs

inductive Caller
  | spawn
  | kill
  | supervisor
deriving DecidableEq

inductive Call
  | ready
  | sent
  | answered (answer : Bool)
deriving DecidableEq

/-- The awaits of the supervisor. A drain has the number of rows it still feeds, and `timer` tells
the drain of the poll branch, which may end in an idle notice. -/
inductive Await
  | pending (timer : Bool)
  | sendTurn (left : ℕ) (timer : Bool)
  | markConsumed (left : ℕ) (timer : Bool)
  | setRunning (left : ℕ) (timer : Bool)
  | select
  | trace
  | turnOutput
  | setAwaiting
  | touch
  | idleNotice
  | setExited
  | exitNotice
  | forgetChild
deriving DecidableEq

def Await.job : Await → Option Op
  | .pending _ => some .bus
  | .sendTurn _ _ => none
  | .markConsumed _ _ => some .bus
  | .setRunning _ _ => some (.agentSetStatus .running)
  | .select => none
  | .trace => some .bus
  | .turnOutput => some .bus
  | .setAwaiting => some (.agentSetStatus .awaitingInput)
  | .touch => some .bus
  | .idleNotice => some .bus
  | .setExited => some (.agentSetStatus .exited)
  | .exitNotice => some .bus
  | .forgetChild => none

def afterDrain (timer : Bool) : Await → Bool
  | .select => true
  | .idleNotice => timer
  | _ => false

def Await.leadsTo : Await → Await → Bool
  | .pending timer, .sendTurn (_ + 1) timer' => timer = timer'
  | .pending _, .setExited => true
  | .pending timer, q => afterDrain timer q
  | .sendTurn n timer, .markConsumed n' timer' => n = n' && timer = timer'
  | .sendTurn _ _, .setExited => true
  | .markConsumed n timer, .setRunning n' timer' => n = n' && timer = timer'
  | .setRunning (n + 2) timer, .sendTurn n' timer' => n' = n + 1 && timer = timer'
  | .setRunning 1 timer, q => afterDrain timer q
  | .select, .trace => true
  | .select, .select => true
  | .select, .turnOutput => true
  | .select, .setExited => true
  | .select, .pending timer => !timer
  | .select, .touch => true
  | .select, .forgetChild => true
  | .trace, .select => true
  | .turnOutput, .setAwaiting => true
  | .setAwaiting, .select => true
  | .touch, .pending timer => timer
  | .idleNotice, .select => true
  | .setExited, .exitNotice => true
  | .exitNotice, .forgetChild => true
  | _, _ => false

inductive Supervisor
  | absent
  | running (next : Await)
  | waiting (at_ : Await) (answered : Bool)
  | ended
deriving DecidableEq

def Supervisor.wake : Supervisor → Supervisor
  | .waiting a _ => .waiting a true
  | s => s

inductive KillRequest
  | agentKill
  | sessionClose
deriving DecidableEq

inductive KillPc
  | check
  | killChild
  | setExited
  | sessionGet
  | sessionClose
  | teardown
  | done (answer : Except IpcErrorCode Unit)
deriving DecidableEq

namespace KillPc

def job (kind : KillRequest) : KillPc → Option Op
  | .check =>
    match kind with
    | .agentKill => some .agentGet
    | .sessionClose => some .sessionGet
  | .setExited => some (.agentSetStatus .exited)
  | .sessionGet => some .sessionGet
  | .sessionClose => some .sessionClose
  | _ => none

def next (kind : KillRequest) : KillPc → Bool → KillPc
  | .check, true => .killChild
  | .check, false => .done (.error .notFound)
  | .killChild, _ => .setExited
  | .setExited, _ =>
    match kind with
    | .agentKill => .sessionGet
    | .sessionClose => .sessionClose
  | .sessionGet, true => .sessionClose
  | .sessionGet, false => .done (.ok ())
  | .sessionClose, _ =>
    match kind with
    | .agentKill => .done (.ok ())
    | .sessionClose => .teardown
  | .teardown, _ => .done (.ok ())
  | .done answer, _ => .done answer

end KillPc

structure State where
  rows : Rows
  queue : List (Caller × Op)
  spawn : SpawnPc
  spawnCall : Call
  kill : KillPc
  killCall : Call
  supervisor : Supervisor
  aborted : Bool
  handle : Bool
  harness : Bool
deriving DecidableEq

structure Setting where
  request : SpawnRequest
  kind : KillRequest
  rows : Rows

def Setting.initial (S : Setting) : State where
  rows := S.rows
  queue := []
  spawn := .sessionGet
  spawnCall := .ready
  kill := .check
  killCall := .ready
  supervisor := .absent
  aborted := false
  handle := false
  harness := false

inductive Label
  | spawn (choice : Bool)
  | kill
  | store
  | reach
  | resume (next : Await)
  | drop
deriving DecidableEq

def submit (st : State) (who : Caller) (op : Op) : State :=
  { st with queue := st.queue ++ [(who, op)] }

/-- The answer reaches its caller. One for a supervisor that was dropped meanwhile is lost. -/
def answer (st : State) (who : Caller) (b : Bool) : State :=
  { st with
    spawnCall := if who = .spawn then .answered b else st.spawnCall
    killCall := if who = .kill then .answered b else st.killCall
    supervisor := if who = .supervisor then st.supervisor.wake else st.supervisor }

def storeStep (st : State) : Option State :=
  match st.queue with
  | [] => none
  | (who, op) :: rest =>
    let (rows, b) := op.execute st.rows
    some (answer { st with rows, queue := rest } who b)

def spawnStep (S : Setting) (st : State) (choice : Bool) : Option State :=
  match st.spawn.effect with
  | .store op =>
    match st.spawnCall with
    | .ready => some { submit st .spawn op with spawnCall := .sent }
    | .sent => none
    | .answered b =>
      some { st with spawn := st.spawn.next S.request b, spawnCall := .ready }
  | .files _ => some { st with spawn := st.spawn.next S.request choice }
  | .harnessSpawn =>
    some { st with spawn := st.spawn.next S.request choice, harness := choice }
  | .spawnTask =>
    some { st with
      spawn := st.spawn.next S.request choice, supervisor := .running (.pending false) }
  | .registerChild => some { st with spawn := st.spawn.next S.request choice, handle := true }
  | .stop => none

def killStep (S : Setting) (st : State) : Option State :=
  match st.kill.job S.kind with
  | some op =>
    match st.killCall with
    | .ready => some { submit st .kill op with killCall := .sent }
    | .sent => none
    | .answered b => some { st with kill := st.kill.next S.kind b, killCall := .ready }
  | none =>
    match st.kill with
    | .killChild =>
      some { st with
        kill := .setExited, handle := false, aborted := st.aborted || st.handle }
    | .teardown => some { st with kill := .done (.ok ()) }
    | _ => none

def reachStep (st : State) : Option State :=
  match st.supervisor with
  | .running .forgetChild =>
    some { st with supervisor := .ended, handle := false, harness := false }
  | .running a =>
    match a.job with
    | some op => some { submit st .supervisor op with supervisor := .waiting a false }
    | none => some { st with supervisor := .waiting a true }
  | _ => none

def resumeStep (st : State) (next : Await) : Option State :=
  match st.supervisor with
  | .waiting a true =>
    if !st.aborted && a.leadsTo next then some { st with supervisor := .running next } else none
  | _ => none

def dropStep (st : State) : Option State :=
  match st.supervisor with
  | .waiting _ _ =>
    if st.aborted then some { st with supervisor := .ended, harness := false } else none
  | _ => none

def step (S : Setting) (st : State) : Label → Option State
  | .spawn choice => spawnStep S st choice
  | .kill => killStep S st
  | .store => storeStep st
  | .reach => reachStep st
  | .resume next => resumeStep st next
  | .drop => dropStep st

inductive Moves (S : Setting) (st : State) : Label → State → Prop
  | spawnSubmit {choice op} (he : st.spawn.effect = .store op) (hc : st.spawnCall = .ready) :
      Moves S st (.spawn choice) { submit st .spawn op with spawnCall := .sent }
  | spawnAnswered {choice op b} (he : st.spawn.effect = .store op)
      (hc : st.spawnCall = .answered b) :
      Moves S st (.spawn choice)
        { st with spawn := st.spawn.next S.request b, spawnCall := .ready }
  | spawnFiles {choice op} (he : st.spawn.effect = .files op) :
      Moves S st (.spawn choice) { st with spawn := st.spawn.next S.request choice }
  | harnessSpawn {choice} (he : st.spawn = .harnessSpawn) :
      Moves S st (.spawn choice)
        { st with spawn := st.spawn.next S.request choice, harness := choice }
  | spawnTask {choice} (he : st.spawn = .spawnTask) :
      Moves S st (.spawn choice)
        { st with spawn := .registerChild, supervisor := .running (.pending false) }
  | registerChild {choice} (he : st.spawn = .registerChild) :
      Moves S st (.spawn choice) { st with spawn := .done (.ok ()), handle := true }
  | killSubmit {op} (hj : st.kill.job S.kind = some op) (hc : st.killCall = .ready) :
      Moves S st .kill { submit st .kill op with killCall := .sent }
  | killAnswered {op b} (hj : st.kill.job S.kind = some op) (hc : st.killCall = .answered b) :
      Moves S st .kill { st with kill := st.kill.next S.kind b, killCall := .ready }
  | killChild (hk : st.kill = .killChild) :
      Moves S st .kill
        { st with kill := .setExited, handle := false, aborted := st.aborted || st.handle }
  | teardown (hk : st.kill = .teardown) : Moves S st .kill { st with kill := .done (.ok ()) }
  | store {who op rest} (hq : st.queue = (who, op) :: rest) :
      Moves S st .store
        (answer { st with rows := (op.execute st.rows).1, queue := rest } who
          (op.execute st.rows).2)
  | forgetChild (hs : st.supervisor = .running .forgetChild) :
      Moves S st .reach { st with supervisor := .ended, handle := false, harness := false }
  | reachJob {a op} (hs : st.supervisor = .running a) (hj : a.job = some op) :
      Moves S st .reach { submit st .supervisor op with supervisor := .waiting a false }
  | reach {a} (hs : st.supervisor = .running a) (hj : a.job = none) :
      Moves S st .reach { st with supervisor := .waiting a true }
  | resume {a next} (hs : st.supervisor = .waiting a true) (ha : st.aborted = false)
      (hl : a.leadsTo next = true) :
      Moves S st (.resume next) { st with supervisor := .running next }
  | drop {a answered} (hs : st.supervisor = .waiting a answered) (ha : st.aborted = true) :
      Moves S st .drop { st with supervisor := .ended, harness := false }

variable {S : Setting} {st st' : State}

lemma effect_harnessSpawn {pc : SpawnPc} (h : pc.effect = .harnessSpawn) : pc = .harnessSpawn := by
  cases pc <;> first | rfl | cases h

lemma effect_spawnTask {pc : SpawnPc} (h : pc.effect = .spawnTask) : pc = .spawnTask := by
  cases pc <;> first | rfl | cases h

lemma effect_registerChild {pc : SpawnPc} (h : pc.effect = .registerChild) :
    pc = .registerChild := by
  cases pc <;> first | rfl | cases h

lemma spawnStep_moves {choice : Bool} (h : spawnStep S st choice = some st') :
    Moves S st (.spawn choice) st' := by
  rw [spawnStep] at h
  cases he : st.spawn.effect with
  | store op =>
    simp only [he] at h
    cases hc : st.spawnCall with
    | ready =>
      simp only [hc, Option.some.injEq] at h
      exact h ▸ .spawnSubmit he hc
    | sent => simp [hc] at h
    | answered b =>
      simp only [hc, Option.some.injEq] at h
      exact h ▸ .spawnAnswered he hc
  | files op =>
    simp only [he, Option.some.injEq] at h
    exact h ▸ .spawnFiles he
  | harnessSpawn =>
    simp only [he, Option.some.injEq] at h
    exact h ▸ .harnessSpawn (effect_harnessSpawn he)
  | spawnTask =>
    have hpc := effect_spawnTask he
    simp only [he, Option.some.injEq] at h
    rw [hpc] at h
    exact h ▸ .spawnTask hpc
  | registerChild =>
    have hpc := effect_registerChild he
    simp only [he, Option.some.injEq] at h
    rw [hpc] at h
    exact h ▸ .registerChild hpc
  | stop => simp [he] at h

lemma killStep_moves (h : killStep S st = some st') : Moves S st .kill st' := by
  rw [killStep] at h
  cases hj : st.kill.job S.kind with
  | some op =>
    simp only [hj] at h
    cases hc : st.killCall with
    | ready =>
      simp only [hc, Option.some.injEq] at h
      exact h ▸ .killSubmit hj hc
    | sent => simp [hc] at h
    | answered b =>
      simp only [hc, Option.some.injEq] at h
      exact h ▸ .killAnswered hj hc
  | none =>
    simp only [hj] at h
    cases hk : st.kill with
    | killChild =>
      simp only [hk, Option.some.injEq] at h
      exact h ▸ .killChild hk
    | teardown =>
      simp only [hk, Option.some.injEq] at h
      exact h ▸ .teardown hk
    | _ => simp [hk] at h

lemma reachStep_moves (h : reachStep st = some st') : Moves S st .reach st' := by
  rw [reachStep] at h
  split at h
  · next hs =>
    obtain rfl := Option.some.inj h
    exact .forgetChild hs
  · next a _ hs =>
    split at h
    · next op hj =>
      obtain rfl := Option.some.inj h
      exact .reachJob hs hj
    · next hj =>
      obtain rfl := Option.some.inj h
      exact .reach hs hj
  · cases h

lemma step_moves {l : Label} (h : step S st l = some st') : Moves S st l st' := by
  cases l with
  | spawn choice => exact spawnStep_moves h
  | kill => exact killStep_moves h
  | store =>
    simp only [step, storeStep] at h
    split at h
    · cases h
    · next who op rest hq =>
      obtain rfl := Option.some.inj h
      exact .store hq
  | reach => exact reachStep_moves h
  | resume next =>
    simp only [step, resumeStep] at h
    split at h
    · next a hs =>
      split at h
      · next hc =>
        obtain ⟨ha, hl⟩ : st.aborted = false ∧ a.leadsTo next = true := by simpa using hc
        obtain rfl := Option.some.inj h
        exact .resume hs ha hl
      · cases h
    · cases h
  | drop =>
    simp only [step, dropStep] at h
    split at h
    · next a answered hs =>
      split at h
      · next ha =>
        obtain rfl := Option.some.inj h
        exact .drop hs ha
      · cases h
    · cases h

end WalkieTalkie.Orchestration.Lifecycle
