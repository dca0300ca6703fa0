import WalkieTalkie.Orchestration.Lifecycle

/-! The status of a session and of its child over the life of the store: any number of spawns, kills
and closes of any name, the supervisors they start and abort, failing store jobs and restarts. Every
request addresses one name of one group, since a child is named after its session, and a store job
counts at the moment it is executed. A job that a dropped supervisor has submitted stays behind and
is still executed. -/

namespace WalkieTalkie.Orchestration.Status

open Proto Store Lib Lib.Runs Lifecycle

structure SpawnTask where
  request : SpawnRequest
  pc : SpawnPc
  task : ℕ
deriving DecidableEq

structure KillTask where
  kind : KillRequest
  pc : KillPc
deriving DecidableEq

structure Supervised where
  phase : Supervisor
  aborted : Bool
deriving DecidableEq

/-- What concerns one name: its rows, its tasks, and the entry of `children`, which is the number of
the supervisor to abort. -/
structure Name where
  rows : Rows
  spawns : List SpawnTask
  kills : List KillTask
  supervisors : List Supervised
  child : Option ℕ
  orphans : List Await
deriving DecidableEq

structure Daemon where
  up : Bool
  names : String × String → Name

inductive Act
  | spawn (request : SpawnRequest)
  | spawnStep (k : ℕ) (outcome : Bool)
  | spawnFails (k : ℕ)
  | kill (kind : KillRequest)
  | killStep (k : ℕ)
  | killFails (k : ℕ)
  | reach (k : ℕ)
  | execute (k : ℕ) (works : Bool)
  | resume (k : ℕ) (next : Await)
  | drop (k : ℕ)
  | orphan (works : Bool)
deriving DecidableEq

/-- How far `reconcile_stale_agents` gets: its two statements are not one transaction. -/
inductive Reconciled
  | complete
  | agentsOnly
  | failed
deriving DecidableEq

inductive Label
  | registerPrime (group : String)
  | act (group name : String) (act : Act)
  | restart
  | reconcile (result : Reconciled)

def spawnFails (request : SpawnRequest) : SpawnPc → SpawnPc
  | .setRunning => .setExited .internal
  | .recordPrompt => .spawnTask
  | .consumePrompt => .spawnTask
  | .setExited code => SpawnPc.teardown request code
  | _ => .done (.error .internal)

def killFails (kind : KillRequest) : KillPc → KillPc
  | .setExited => KillPc.next kind .setExited true
  | .sessionClose =>
    match kind with
    | .agentKill => .done (.ok ())
    | .sessionClose => .done (.error .internal)
  | _ => .done (.error .internal)

def registerPrime (rows : Rows) : Rows := { rows with agent := some (rows.agent.getD .idle) }

def runAwait (a : Await) (rows : Rows) : Rows :=
  match a.job with
  | some op => (op.execute rows).1
  | none => rows

def Supervised.abort (s : Supervised) : Supervised := { s with aborted := true }

namespace Name

def fresh (rows : Rows) : Name := ⟨rows, [], [], [], none, []⟩

def setSpawn (n : Name) (k : ℕ) (t : SpawnTask) : Name := { n with spawns := n.spawns.set k t }

def setKill (n : Name) (k : ℕ) (t : KillTask) : Name := { n with kills := n.kills.set k t }

def setPhase (n : Name) (k : ℕ) (s : Supervised) (phase : Supervisor) : Name :=
  { n with supervisors := n.supervisors.set k { s with phase } }

def abortChild (n : Name) : List Supervised :=
  match n.child with
  | some i => n.supervisors.modify i Supervised.abort
  | none => n.supervisors

/-- The registration of an agent is also refused when its token's hash is taken. -/
def runStore (n : Name) (outcome : Bool) (op : Op) : Rows × Bool :=
  if op = .agentRegister ∧ outcome = false then (n.rows, false) else op.execute n.rows

def spawnStep (n : Name) (k : ℕ) (t : SpawnTask) (outcome : Bool) : Option Name :=
  match t.pc.effect with
  | .store op =>
    let (rows, b) := n.runStore outcome op
    some { n.setSpawn k { t with pc := t.pc.next t.request b } with rows }
  | .spawnTask =>
    some { n.setSpawn k { t with pc := t.pc.next t.request true, task := n.supervisors.length } with
      supervisors := n.supervisors ++ [⟨.running (.pending false), false⟩] }
  | .registerChild =>
    some { n.setSpawn k { t with pc := t.pc.next t.request true } with child := some t.task }
  | .stop => none
  | _ => some (n.setSpawn k { t with pc := t.pc.next t.request outcome })

def spawnFailsStep (n : Name) (k : ℕ) (t : SpawnTask) : Option Name :=
  match t.pc.effect with
  | .store _ => some (n.setSpawn k { t with pc := spawnFails t.request t.pc })
  | _ => none

def killStep (n : Name) (k : ℕ) (t : KillTask) : Option Name :=
  match t.pc.job t.kind with
  | some op =>
    let (rows, b) := op.execute n.rows
    some { n.setKill k { t with pc := t.pc.next t.kind b } with rows }
  | none =>
    match t.pc with
    | .killChild =>
      some { n.setKill k { t with pc := .setExited } with
        child := none, supervisors := n.abortChild }
    | .teardown => some (n.setKill k { t with pc := .done (.ok ()) })
    | _ => none

def killFailsStep (n : Name) (k : ℕ) (t : KillTask) : Option Name :=
  match t.pc.job t.kind with
  | some _ => some (n.setKill k { t with pc := killFails t.kind t.pc })
  | none => none

def reachStep (n : Name) (k : ℕ) (s : Supervised) : Option Name :=
  match s.phase with
  | .running .forgetChild => some { n.setPhase k s .ended with child := none }
  | .running a => some (n.setPhase k s (.waiting a a.job.isNone))
  | _ => none

def executeStep (n : Name) (k : ℕ) (s : Supervised) (works : Bool) : Option Name :=
  match s.phase with
  | .waiting a false =>
    some { n.setPhase k s (.waiting a true) with
      rows := if works then runAwait a n.rows else n.rows }
  | _ => none

def resumeStep (n : Name) (k : ℕ) (s : Supervised) (next : Await) : Option Name :=
  match s.phase with
  | .waiting a true =>
    if !s.aborted && a.leadsTo next then some (n.setPhase k s (.running next)) else none
  | _ => none

def dropStep (n : Name) (k : ℕ) (s : Supervised) : Option Name :=
  match s.phase with
  | .waiting a answered =>
    if s.aborted then
      some { n.setPhase k s .ended with
        orphans := if answered then n.orphans else n.orphans ++ [a] }
    else none
  | _ => none

def step (n : Name) : Act → Option Name
  | .spawn request => some { n with spawns := n.spawns ++ [⟨request, .sessionGet, 0⟩] }
  | .spawnStep k outcome => (n.spawns[k]?).bind fun t => n.spawnStep k t outcome
  | .spawnFails k => (n.spawns[k]?).bind fun t => n.spawnFailsStep k t
  | .kill kind => some { n with kills := n.kills ++ [⟨kind, .check⟩] }
  | .killStep k => (n.kills[k]?).bind fun t => n.killStep k t
  | .killFails k => (n.kills[k]?).bind fun t => n.killFailsStep k t
  | .reach k => (n.supervisors[k]?).bind fun s => n.reachStep k s
  | .execute k works => (n.supervisors[k]?).bind fun s => n.executeStep k s works
  | .resume k next => (n.supervisors[k]?).bind fun s => n.resumeStep k s next
  | .drop k => (n.supervisors[k]?).bind fun s => n.dropStep k s
  | .orphan works =>
    match n.orphans with
    | [] => none
    | a :: rest =>
      some { n with rows := if works then runAwait a n.rows else n.rows, orphans := rest }

end Name

def reconcileRows (result : Reconciled) (rows : Rows) : Rows where
  agent :=
    if result = .failed then rows.agent
    else rows.agent.map fun s =>
      if s = .starting || s = .running || s = .awaitingInput then .exited else s
  session := if result = .complete then rows.session.map fun _ => .closed else rows.session

def initial : Daemon := ⟨false, fun _ => Name.fresh ⟨none, none⟩⟩

def step (d : Daemon) : Label → Option Daemon
  | .registerPrime group =>
    if d.up then
      let n := d.names (group, "prime")
      some { d with
        names := Function.update d.names (group, "prime") { n with rows := registerPrime n.rows } }
    else none
  | .act group name act =>
    if d.up then
      (Name.step (d.names (group, name)) act).map fun n =>
        { d with names := Function.update d.names (group, name) n }
    else none
  | .restart => some ⟨false, fun k => Name.fresh (d.names k).rows⟩
  | .reconcile result =>
    if d.up then none
    else some ⟨true, fun k => Name.fresh (reconcileRows result (d.names k).rows)⟩

def live (s : Supervised) : Bool := s.phase ≠ .ended && !s.aborted

/-- No request of the name and no step of its supervisor is half-way. -/
structure Settled (n : Name) : Prop where
  spawns : ∀ t ∈ n.spawns, ∃ answer, t.pc = .done answer
  kills : ∀ t ∈ n.kills, ∃ answer, t.pc = .done answer
  supervisors : ∀ s ∈ n.supervisors,
    s.phase = .ended ∨ (s.phase = .waiting .select true ∧ s.aborted = false)
  orphans : n.orphans = []

structure Quiescent (d : Daemon) : Prop where
  up : d.up = true
  settled : ∀ k, Settled (d.names k)

/-- The step leaves no active session behind and closes none under a supervisor: a child is
registered while its session is active, a spawn that rolls back after creating its session finds it
closed, as does a supervisor that ends by itself, a session is closed while no child is registered,
and a kill whose closing jobs fail has no session to close. -/
def Keeps (n : Name) : Act → Prop
  | .spawnStep k _ => ∀ t ∈ n.spawns[k]?,
    (t.pc = .registerChild → n.rows.session = some .active) ∧
    (t.pc = .removeDir .internal → n.rows.session ≠ some .active)
  | .killStep k => ∀ t ∈ n.kills[k]?, t.pc = .sessionClose → n.child = none
  | .killFails k => ∀ t ∈ n.kills[k]?,
    t.pc = .sessionGet ∨ t.pc = .sessionClose → n.rows.session ≠ some .active
  | .reach k => ∀ s ∈ n.supervisors[k]?, s.phase = .running .forgetChild → s.aborted = false →
    n.rows.session ≠ some .active
  | _ => True

def KeepsStatus (d : Daemon) : Label → Prop
  | .act group name act => Keeps (d.names (group, name)) act
  | .reconcile result =>
    result = .complete ∨ ∀ k, (d.names k).rows.session ≠ some .active
  | _ => True

instance : ∀ (n : Name) (a : Act), Decidable (Keeps n a)
  | n, .spawnStep k _ => inferInstanceAs (Decidable (∀ t ∈ n.spawns[k]?, _ ∧ _))
  | n, .killStep k => inferInstanceAs (Decidable (∀ t ∈ n.kills[k]?, _ → _))
  | n, .killFails k => inferInstanceAs (Decidable (∀ t ∈ n.kills[k]?, _ → _))
  | n, .reach k => inferInstanceAs (Decidable (∀ s ∈ n.supervisors[k]?, _ → _ → _))
  | _, .spawn _ => .isTrue trivial
  | _, .spawnFails _ => .isTrue trivial
  | _, .kill _ => .isTrue trivial
  | _, .execute _ _ => .isTrue trivial
  | _, .resume _ _ => .isTrue trivial
  | _, .drop _ => .isTrue trivial
  | _, .orphan _ => .isTrue trivial

/-- How far a spawn is, as far as the rows and the supervisors of its name go. -/
inductive Stage
  | before
  | creating
  | refused
  | starting
  | started
  | launched
  | undoing
  | over
deriving DecidableEq

def stage : SpawnPc → Stage
  | .sessionGet => .before
  | .agentGet => .before
  | .wsExists => .before
  | .createParent => .before
  | .isGitRepo => .before
  | .worktreeAdd => .before
  | .createDir => .before
  | .agentRegister => .before
  | .sessionCreate => .creating
  | .harnessSpawn => .starting
  | .setRunning => .starting
  | .recordPrompt => .started
  | .consumePrompt => .started
  | .spawnTask => .started
  | .registerChild => .launched
  | .setExited code => if code = .internal then .undoing else .refused
  | .worktreeRemove code => if code = .internal then .undoing else .over
  | .branchDelete code => if code = .internal then .undoing else .over
  | .removeDir code => if code = .internal then .undoing else .over
  | .done _ => .over

/-- The stages to which a spawn goes on with rows and supervisors as they are. -/
def Stage.onto : Stage → Stage → Bool
  | .before, s => s = .before || s = .over
  | .creating, s => s = .over
  | .refused, s => s = .over
  | .starting, s => s = .starting || s = .undoing
  | .started, s => s = .started
  | .undoing, s => s = .undoing || s = .over
  | .over, s => s = .over
  | _, _ => false

def closing : KillPc → Bool
  | .setExited => true
  | .sessionGet => true
  | .sessionClose => true
  | _ => false

inductive Moves (n : Name) : Act → Name → Prop
  | spawn (request : SpawnRequest) :
      Moves n (.spawn request) { n with spawns := n.spawns ++ [⟨request, .sessionGet, 0⟩] }
  | onto {k t outcome pc} (ht : n.spawns[k]? = some t)
      (hs : Stage.onto (stage t.pc) (stage pc) = true)
      (hu : stage t.pc = .undoing → stage pc = .over → t.pc = .removeDir .internal) :
      Moves n (.spawnStep k outcome) (n.setSpawn k { t with pc })
  | fails {k t pc} (ht : n.spawns[k]? = some t)
      (hs : Stage.onto (stage t.pc) (stage pc) = true)
      (hu : stage t.pc = .undoing → stage pc = .undoing) :
      Moves n (.spawnFails k) (n.setSpawn k { t with pc })
  | register {k t outcome pc} (ht : n.spawns[k]? = some t) (hs : stage t.pc = .before)
      (hs' : stage pc = .creating) (ha : n.rows.agent = none) :
      Moves n (.spawnStep k outcome)
        { n.setSpawn k { t with pc } with rows := { n.rows with agent := some .starting } }
  | create {k t outcome pc} (ht : n.spawns[k]? = some t) (hs : stage t.pc = .creating)
      (hs' : stage pc = .starting) (hn : n.rows.session = none) :
      Moves n (.spawnStep k outcome)
        { n.setSpawn k { t with pc } with rows := { n.rows with session := some .active } }
  | refused {k t outcome pc} (ht : n.spawns[k]? = some t) (hs : stage t.pc = .creating)
      (hn : n.rows.session ≠ none) :
      Moves n (.spawnStep k outcome) (n.setSpawn k { t with pc })
  | setRunning {k t outcome pc} (ht : n.spawns[k]? = some t) (hs : stage t.pc = .starting)
      (hs' : stage pc = .started) :
      Moves n (.spawnStep k outcome)
        { n.setSpawn k { t with pc } with
          rows := { n.rows with agent := n.rows.agent.map fun _ => .running } }
  | setExited {k t outcome pc} (ht : n.spawns[k]? = some t)
      (hs : stage t.pc = .refused ∨ (stage t.pc = .undoing ∧ stage pc = .undoing)) :
      Moves n (.spawnStep k outcome)
        { n.setSpawn k { t with pc } with
          rows := { n.rows with agent := n.rows.agent.map fun _ => .exited } }
  | spawnTask {k t outcome pc} (ht : n.spawns[k]? = some t) (hs : stage t.pc = .started)
      (hs' : stage pc = .launched) :
      Moves n (.spawnStep k outcome)
        { n.setSpawn k { t with pc, task := n.supervisors.length } with
          supervisors := n.supervisors ++ [⟨.running (.pending false), false⟩] }
  | registerChild {k t outcome pc} (ht : n.spawns[k]? = some t) (hpc : t.pc = .registerChild)
      (hs' : stage pc = .over) :
      Moves n (.spawnStep k outcome) { n.setSpawn k { t with pc } with child := some t.task }
  | kill (kind : KillRequest) :
      Moves n (.kill kind) { n with kills := n.kills ++ [⟨kind, .check⟩] }
  | killOnto {k t pc} (ht : n.kills[k]? = some t)
      (hc : closing t.pc = true → closing pc = true ∨ n.rows.session = none) :
      Moves n (.killStep k) (n.setKill k { t with pc })
  | killFails {k t pc} (ht : n.kills[k]? = some t)
      (hc : closing t.pc = true → closing pc = true ∨ t.pc = .sessionGet ∨ t.pc = .sessionClose) :
      Moves n (.killFails k) (n.setKill k { t with pc })
  | killChild {k t} (ht : n.kills[k]? = some t) :
      Moves n (.killStep k)
        { n.setKill k { t with pc := .setExited } with
          child := none, supervisors := n.abortChild }
  | killExited {k t pc} (ht : n.kills[k]? = some t) (hc : closing pc = true) :
      Moves n (.killStep k)
        { n.setKill k { t with pc } with
          rows := { n.rows with agent := n.rows.agent.map fun _ => .exited } }
  | close {k t pc} (ht : n.kills[k]? = some t) (hpc : t.pc = .sessionClose) :
      Moves n (.killStep k)
        { n.setKill k { t with pc } with
          rows := { n.rows with session := n.rows.session.map fun _ => .closed } }
  | ended {k s} (hs : n.supervisors[k]? = some s) (hp : s.phase = .running .forgetChild) :
      Moves n (.reach k) { n.setPhase k s .ended with child := none }
  | reach {k s a answered} (hs : n.supervisors[k]? = some s) (hp : s.phase = .running a) :
      Moves n (.reach k) (n.setPhase k s (.waiting a answered))
  | execute {k s a works} (hs : n.supervisors[k]? = some s) (hp : s.phase = .waiting a false) :
      Moves n (.execute k works)
        { n.setPhase k s (.waiting a true) with
          rows := if works then runAwait a n.rows else n.rows }
  | resume {k s a next} (hs : n.supervisors[k]? = some s) (hp : s.phase = .waiting a true)
      (hl : a.leadsTo next = true) : Moves n (.resume k next) (n.setPhase k s (.running next))
  | drop {k s orphans} (hs : n.supervisors[k]? = some s) (hp : s.phase ≠ .ended)
      (ha : s.aborted = true) :
      Moves n (.drop k) { n.setPhase k s .ended with orphans }
  | orphan {a rest works} (ho : n.orphans = a :: rest) :
      Moves n (.orphan works)
        { n with rows := if works then runAwait a n.rows else n.rows, orphans := rest }

variable {n n' : Name} {k : ℕ}

lemma stage_teardown (request : SpawnRequest) (code : IpcErrorCode) :
    stage (SpawnPc.teardown request code) = if code = .internal then .undoing else .over := by
  obtain ⟨_ | _, prompt⟩ := request <;> rfl

def quiet : SpawnPc → Bool
  | .agentRegister => false
  | .sessionCreate => false
  | .setRunning => false
  | .setExited _ => false
  | .spawnTask => false
  | .registerChild => false
  | .done _ => false
  | _ => true

lemma onto_next {pc : SpawnPc} (request : SpawnRequest) (b : Bool) (h : quiet pc = true) :
    Stage.onto (stage pc) (stage (pc.next request b)) = true := by
  cases pc with
  | createParent =>
    obtain ⟨_ | _, prompt⟩ := request <;> cases b <;> rfl
  | worktreeRemove code =>
    by_cases hc : code = .internal <;> simp [stage, SpawnPc.next, Stage.onto, hc]
  | branchDelete code =>
    by_cases hc : code = .internal <;> simp [stage, SpawnPc.next, Stage.onto, hc]
  | removeDir code =>
    by_cases hc : code = .internal <;> simp [stage, SpawnPc.next, Stage.onto, hc]
  | _ => first | exact absurd h Bool.false_ne_true | cases b <;> rfl

lemma undoing_next {pc : SpawnPc} (request : SpawnRequest) (b : Bool) (h : quiet pc = true)
    (hs : stage pc = .undoing) (hs' : stage (pc.next request b) = .over) :
    pc = .removeDir .internal := by
  cases pc with
  | worktreeRemove code =>
    obtain rfl : code = .internal := by
      by_contra hc
      simp [stage, hc] at hs
    cases hs'
  | branchDelete code =>
    obtain rfl : code = .internal := by
      by_contra hc
      simp [stage, hc] at hs
    cases hs'
  | removeDir code =>
    obtain rfl : code = .internal := by
      by_contra hc
      simp [stage, hc] at hs
    rfl
  | setExited code => cases h
  | _ => cases hs

lemma spawnStep_store {t : SpawnTask} {outcome b : Bool} {op : Op} {rows : Rows}
    (he : t.pc.effect = .store op) (hr : n.runStore outcome op = (rows, b))
    (h : n.spawnStep k t outcome = some n') :
    n' = { n.setSpawn k { t with pc := t.pc.next t.request b } with rows } := by
  simp only [Name.spawnStep, he, hr] at h
  exact (Option.some.inj h).symm

lemma spawnStep_moves {t : SpawnTask} {outcome : Bool} (ht : n.spawns[k]? = some t)
    (h : n.spawnStep k t outcome = some n') : Moves n (.spawnStep k outcome) n' := by
  obtain ⟨request, pc, task⟩ := t
  cases pc with
  | agentRegister =>
    by_cases hfree : outcome = true ∧ n.rows.agent = none
    · have hrun : n.runStore outcome .agentRegister =
          ({ n.rows with agent := some .starting }, true) := by
        simp [Name.runStore, Op.execute, hfree]
      obtain rfl := spawnStep_store rfl hrun h
      exact .register ht rfl rfl hfree.2
    · have hrun : n.runStore outcome .agentRegister = (n.rows, false) := by
        cases outcome with
        | false => rfl
        | true =>
          have hsome : n.rows.agent ≠ none := fun hn => hfree ⟨rfl, hn⟩
          simp [Name.runStore, Op.execute, Option.isSome_iff_ne_none, hsome]
      obtain rfl := spawnStep_store rfl hrun h
      refine .onto ht ?_ (fun h => by cases h)
      simp only [SpawnPc.next, stage_teardown]
      rfl
  | sessionCreate =>
    by_cases hnone : n.rows.session = none
    · have hrun : n.runStore outcome .sessionCreate =
          ({ n.rows with session := some .active }, true) := by
        simp [Name.runStore, Op.execute, hnone]
      obtain rfl := spawnStep_store rfl hrun h
      exact .create ht rfl rfl hnone
    · have hrun : n.runStore outcome .sessionCreate = (n.rows, false) := by
        simp [Name.runStore, Op.execute, Option.isSome_iff_ne_none, hnone]
      obtain rfl := spawnStep_store rfl hrun h
      exact .refused ht rfl hnone
  | setRunning =>
    obtain rfl := Option.some.inj h
    refine .setRunning ht rfl ?_
    cases hp : request.prompt <;> simp [SpawnPc.next, hp, stage]
  | setExited code =>
    obtain rfl := Option.some.inj h
    refine .setExited ht ?_
    by_cases hc : code = .internal
    · subst hc
      exact Or.inr ⟨rfl, stage_teardown request .internal⟩
    · exact Or.inl (if_neg hc)
  | spawnTask =>
    obtain rfl := Option.some.inj h
    exact .spawnTask ht rfl rfl
  | registerChild =>
    obtain rfl := Option.some.inj h
    exact .registerChild ht rfl rfl
  | done answer => cases h
  | _ =>
    obtain rfl := Option.some.inj h
    exact .onto ht (onto_next request _ rfl) (undoing_next request _ rfl)

lemma spawnFailsStep_moves {t : SpawnTask} (ht : n.spawns[k]? = some t)
    (h : n.spawnFailsStep k t = some n') : Moves n (.spawnFails k) n' := by
  obtain ⟨request, pc, task⟩ := t
  cases pc with
  | setExited code =>
    obtain rfl := Option.some.inj h
    have hnext := stage_teardown request code
    by_cases hc : code = .internal
    · rw [if_pos hc] at hnext
      have hundoing : stage (.setExited code) = .undoing := if_pos hc
      refine .fails ht ?_ fun _ => hnext
      simp [spawnFails, hnext, hundoing, Stage.onto]
    · rw [if_neg hc] at hnext
      have hrefused : stage (.setExited code) = .refused := if_neg hc
      refine .fails ht ?_ fun hs => ?_
      · simp [spawnFails, hnext, hrefused, Stage.onto]
      · simp [hrefused] at hs
  | _ =>
    first
    | obtain rfl := Option.some.inj h
      exact .fails ht rfl fun hs => by cases hs
    | cases h

lemma killStep_moves {t : KillTask} (ht : n.kills[k]? = some t) (h : n.killStep k t = some n') :
    Moves n (.killStep k) n' := by
  obtain ⟨kind, pc⟩ := t
  cases pc with
  | check =>
    cases kind <;>
    · obtain rfl := Option.some.inj h
      exact .killOnto ht fun hc => by cases hc
  | killChild =>
    obtain rfl := Option.some.inj h
    exact .killChild ht
  | setExited =>
    obtain rfl := Option.some.inj h
    refine .killExited ht ?_
    cases kind <;> rfl
  | sessionGet =>
    obtain rfl := Option.some.inj h
    refine .killOnto ht fun _ => ?_
    cases hs : n.rows.session with
    | none => exact Or.inr rfl
    | some status => exact Or.inl (by simp [KillPc.next, closing])
  | sessionClose =>
    obtain rfl := Option.some.inj h
    exact .close ht rfl
  | teardown =>
    obtain rfl := Option.some.inj h
    exact .killOnto ht fun hc => by cases hc
  | done answer => cases h

lemma killFailsStep_moves {t : KillTask} (ht : n.kills[k]? = some t)
    (h : n.killFailsStep k t = some n') : Moves n (.killFails k) n' := by
  obtain ⟨kind, pc⟩ := t
  rw [Name.killFailsStep] at h
  split at h
  · obtain rfl := Option.some.inj h
    refine .killFails ht fun hc => ?_
    cases pc with
    | setExited => exact Or.inl (by cases kind <;> rfl)
    | sessionGet => exact Or.inr (Or.inl rfl)
    | sessionClose => exact Or.inr (Or.inr rfl)
    | _ => cases hc
  · cases h

lemma step_moves {a : Act} (h : n.step a = some n') : Moves n a n' := by
  cases a with
  | spawn request =>
    obtain rfl := Option.some.inj h
    exact .spawn request
  | spawnStep k outcome =>
    obtain ⟨t, ht, h⟩ := Option.bind_eq_some_iff.mp h
    exact spawnStep_moves ht h
  | spawnFails k =>
    obtain ⟨t, ht, h⟩ := Option.bind_eq_some_iff.mp h
    exact spawnFailsStep_moves ht h
  | kill kind =>
    obtain rfl := Option.some.inj h
    exact .kill kind
  | killStep k =>
    obtain ⟨t, ht, h⟩ := Option.bind_eq_some_iff.mp h
    exact killStep_moves ht h
  | killFails k =>
    obtain ⟨t, ht, h⟩ := Option.bind_eq_some_iff.mp h
    exact killFailsStep_moves ht h
  | reach k =>
    obtain ⟨s, hs, h⟩ := Option.bind_eq_some_iff.mp h
    rw [Name.reachStep] at h
    split at h
    · next hp =>
      obtain rfl := Option.some.inj h
      exact .ended hs hp
    · next hp =>
      obtain rfl := Option.some.inj h
      exact .reach hs hp
    · cases h
  | execute k works =>
    obtain ⟨s, hs, h⟩ := Option.bind_eq_some_iff.mp h
    rw [Name.executeStep] at h
    split at h
    · next hp =>
      obtain rfl := Option.some.inj h
      exact .execute hs hp
    · cases h
  | resume k next =>
    obtain ⟨s, hs, h⟩ := Option.bind_eq_some_iff.mp h
    rw [Name.resumeStep] at h
    split at h
    · next hp =>
      split at h
      · next hc =>
        obtain rfl := Option.some.inj h
        exact .resume hs hp (by simp_all)
      · cases h
    · cases h
  | drop k =>
    obtain ⟨s, hs, h⟩ := Option.bind_eq_some_iff.mp h
    rw [Name.dropStep] at h
    split at h
    · next hp =>
      split at h
      · next ha =>
        obtain rfl := Option.some.inj h
        exact .drop hs (by simp [hp]) ha
      · cases h
    · cases h
  | orphan works =>
    simp only [Name.step] at h
    split at h
    · cases h
    · next ho =>
      obtain rfl := Option.some.inj h
      exact .orphan ho

end WalkieTalkie.Orchestration.Status
