import WalkieTalkie.Orchestration.Clients
import WalkieTalkie.Orchestration.Scope

/-! Every task works for one group: it reads and writes the rows of this group only, and it goes on for
the same group. What it does can be told from the group's part of the store. -/

namespace WalkieTalkie.Orchestration.Clients

open Proto Store Lib
open Requests (Spawn Outgoing primeRow scope Writes)
open Lifecycle (Await KillPc KillRequest)

def Task.group : Task → String
  | .registerPrime group _ => group
  | .spawn sp => sp.group
  | .post out => out.group
  | .broadcast group _ _ => group
  | .recv r => r.group
  | .kill k => k.group

/-- The agent that a task may still register. -/
def Task.mints : Task → AgentRow → Prop
  | .registerPrime group tokenHash => fun row => row = primeRow group tokenHash
  | .spawn sp => fun row => row = sp.agentRow
  | _ => fun _ => False

def Task.Uniform : Task → Prop
  | .broadcast group outs _ => ∀ out ∈ outs, out.group = group
  | _ => True

def Recv.scope (g : String) (r : Recv) : Recv :=
  { r with rx := r.rx.filter fun row => row.groupName = g }

def Task.scope (g : String) : Task → Task
  | .recv r => .recv (r.scope g)
  | t => t

def Conn.scope (g : String) (c : Conn) : Conn := { c with task := c.task.map (Task.scope g) }

def Outcome.scope (g : String) (o : Outcome) : Outcome :=
  { o with store := Requests.scope g o.store, task := o.task.map (Task.scope g) }

def ChildOp.Within (group : String) : ChildOp → Prop
  | .none => True
  | .start s => s.group = group
  | .register h _ => h = group
  | .kill h _ => h = group

variable {g : String} {O : Sorting} {store : Requests.State}

lemma nextOwn_filter (rx : List AgentMsgRow) :
    nextOwn g (rx.filter fun row => row.groupName = g) =
      (nextOwn g rx).map fun x => (x.1, x.2.filter fun row => row.groupName = g) := by
  induction rx with
  | nil => rfl
  | cons row rest ih =>
    by_cases hg : row.groupName = g
    · simp [nextOwn, hg]
    · simp [nextOwn, hg, ih]

lemma spawnAnswer_scope (sp : Spawn) :
    (spawnAnswer sp).1.map (Task.scope g) = (spawnAnswer sp).1 := by
  rw [spawnAnswer]
  split <;> rfl

lemma killAnswer_scope (k : Kill) : (killAnswer k).1.map (Task.scope g) = (killAnswer k).1 := by
  rw [killAnswer]
  split
  · rfl
  · split <;> rfl
  · rfl
  · rfl

lemma markRow_scope (row : AgentMsgRow) (works : Bool) (now : UInt64) :
    markRow (scope g store) g row works now = scope g (markRow store g row works now) := by
  cases works with
  | true => simp [markRow, scope, BusTable.agentMsgMarkConsumed_scope]
  | false => rfl

lemma markRow_scope_other {group : String} (row : AgentMsgRow) (works : Bool) (now : UInt64)
    (hg : group ≠ g) : scope g (markRow store group row works now) = scope g store := by
  cases works with
  | true => simp [markRow, scope, BusTable.agentMsgMarkConsumed_scope_other _ _ _ hg]
  | false => rfl

lemma writes_markRow {new : AgentRow → Prop} (group : String) (row : AgentMsgRow) (works : Bool)
    (now : UInt64) : Writes new store (markRow store group row works now) := by
  cases works with
  | true => exact .mark _ _ _ now
  | false => exact .none

lemma runRecv_scope {r : Recv} (works : Bool) (now : UInt64) (hg : r.group = g) :
    runRecv O (scope g store) (r.scope g) works now =
      (scope g (runRecv O store r works now).1,
        (runRecv O store r works now).2.1.map (Recv.scope g),
        (runRecv O store r works now).2.2) := by
  obtain ⟨group, agent, session, since, follow, consume, rx, phase⟩ := r
  obtain rfl : group = g := hg
  cases phase with
  | backlog => simp [runRecv, Recv.scope, scope, BusTable.backlogRows_scope]
  | write rows =>
    cases rows with
    | nil => cases follow <;> rfl
    | cons row rest => rfl
  | mark row rest => exact Prod.ext (markRow_scope row works now) rfl
  | live =>
    have hnext := @nextOwn_filter group rx
    simp only [runRecv, Recv.scope, hnext]
    cases nextOwn group rx with
    | none => rfl
    | some x =>
      have hsame : ∀ rx', Recv.wants ⟨group, agent, session, since, follow, consume, rx', .live⟩ x.1 =
          Recv.wants ⟨group, agent, session, since, follow, consume, rx, .live⟩ x.1 := fun _ => rfl
      simp only [Option.map_some, hsame]
      cases Recv.wants ⟨group, agent, session, since, follow, consume, rx, .live⟩ x.1 <;> rfl
  | liveMark row => exact Prod.ext (markRow_scope row works now) rfl

lemma runRecv_scope_other {r : Recv} (works : Bool) (now : UInt64) (hg : r.group ≠ g) :
    scope g (runRecv O store r works now).1 = scope g store := by
  rw [runRecv]
  split
  · rfl
  · rfl
  · rfl
  · exact markRow_scope_other _ works now hg
  · split
    · rfl
    · split <;> rfl
  · exact markRow_scope_other _ works now hg

lemma runRecv_group {r r' : Recv} {works : Bool} {now : UInt64}
    (h : (runRecv O store r works now).2.1 = some r') : r'.group = r.group := by
  rw [runRecv] at h
  split at h
  · obtain rfl := Option.some.inj h
    rfl
  · simp only at h
    split at h
    · obtain rfl := Option.some.inj h
      rfl
    · cases h
  · obtain rfl := Option.some.inj h
    rfl
  · obtain rfl := Option.some.inj h
    rfl
  · split at h
    · obtain rfl := Option.some.inj h
      rfl
    · split at h <;>
      · obtain rfl := Option.some.inj h
        rfl
  · obtain rfl := Option.some.inj h
    rfl

lemma writes_runRecv {new : AgentRow → Prop} {r : Recv} (works : Bool) (now : UInt64) :
    Writes new store (runRecv O store r works now).1 := by
  rw [runRecv]
  split
  · exact .none
  · exact .none
  · exact .none
  · exact writes_markRow _ _ works now
  · split
    · exact .none
    · split <;> exact .none
  · exact writes_markRow _ _ works now

lemma runKill_scope {k : Kill} (works : Bool) (hg : k.group = g) :
    runKill (scope g store) k works =
      (scope g (runKill store k works).1, (runKill store k works).2) := by
  obtain ⟨kind, group, agent, session, pc⟩ := k
  obtain rfl : group = g := hg
  cases pc with
  | check =>
    cases kind with
    | agentKill => simp [runKill, scope, AgentTable.agentGet_scope]
    | sessionClose =>
      simp only [runKill, scope, SessionTable.sessionGet_scope]
      cases store.sessions.sessionGet group session with
      | none => rfl
      | some sess => rfl
  | setExited =>
    cases works with
    | true => simp [runKill, scope, AgentTable.agentSetStatus_scope]
    | false => rfl
  | sessionGet => simp [runKill, scope, SessionTable.sessionGet_scope]
  | sessionClose => simp [runKill, scope, SessionTable.sessionClose_scope]
  | _ => rfl

lemma runKill_scope_other {k : Kill} (works : Bool) (hg : k.group ≠ g) :
    scope g (runKill store k works).1 = scope g store := by
  obtain ⟨kind, group, agent, session, pc⟩ := k
  have hg : group ≠ g := hg
  cases pc with
  | check =>
    cases kind with
    | agentKill => rfl
    | sessionClose =>
      simp only [runKill]
      split <;> rfl
  | setExited =>
    cases works with
    | true => simp [runKill, scope, AgentTable.agentSetStatus_scope_other _ _ hg]
    | false => rfl
  | sessionClose => simp [runKill, scope, SessionTable.sessionClose_scope_other _ hg]
  | _ => rfl

lemma runKill_group (k : Kill) (works : Bool) : (runKill store k works).2.group = k.group := by
  rw [runKill]
  split
  · split
    · rfl
    · split <;> rfl
  all_goals rfl

lemma writes_runKill {new : AgentRow → Prop} (k : Kill) (works : Bool) :
    Writes new store (runKill store k works).1 := by
  rw [runKill]
  split
  · split
    · exact .none
    · split <;> exact .none
  · cases works with
    | true => exact .agents _ _
    | false => exact .none
  · exact .none
  · exact .close _ _
  · exact .none

lemma runTask_scope {t : Task} (outcome : Bool) (now : UInt64) (hg : t.group = g)
    (hu : t.Uniform)
    (htoken : ∀ row, t.mints row → ∀ r ∈ store.agents.rows, r.tokenHash = row.tokenHash →
      r.groupName = g) :
    runTask O (scope g store) outcome now (t.scope g) =
      (runTask O store outcome now t).scope g := by
  cases t with
  | registerPrime group tokenHash =>
    obtain rfl : group = g := hg
    have hscope : (store.agents.scope group).agentRegister (primeRow group tokenHash) =
        ((store.agents.agentRegister (primeRow group tokenHash)).1.scope group,
          (store.agents.agentRegister (primeRow group tokenHash)).2) :=
      AgentTable.agentRegister_scope rfl (htoken _ rfl)
    simp [Task.scope, runTask, Outcome.scope, scope, hscope]
  | spawn sp =>
    have hrun := Requests.runSpawn_scope outcome now hg (htoken _ rfl)
    simp only [Task.scope, runTask, hrun, Outcome.scope, spawnAnswer_scope]
  | post out =>
    simp only [Task.scope, runTask]
    rw [Requests.busEnqueue_scope now hg]
    cases store.busEnqueue out now with
    | error e => rfl
    | ok x => rfl
  | broadcast group outs sent =>
    cases outs with
    | nil => rfl
    | cons out rest =>
      have hout : out.group = g := (hu out (List.mem_cons_self ..)).trans hg
      simp only [Task.scope, runTask]
      rw [Requests.busEnqueue_scope now hout]
      cases store.busEnqueue out now with
      | error e => rfl
      | ok x => rfl
  | recv r =>
    have hrun := @runRecv_scope g O store r outcome now hg
    simp only [Task.scope, runTask, hrun, Outcome.scope, Option.map_map]
    rfl
  | kill k =>
    have hrun := @runKill_scope g store k outcome hg
    simp only [Task.scope, runTask, hrun, Outcome.scope, killAnswer_scope]

lemma runTask_scope_other {t : Task} (outcome : Bool) (now : UInt64) (hg : t.group ≠ g)
    (hu : t.Uniform) : scope g (runTask O store outcome now t).store = scope g store := by
  cases t with
  | registerPrime group tokenHash =>
    have hscope : (store.agents.agentRegister (primeRow group tokenHash)).1.scope g =
        store.agents.scope g := AgentTable.agentRegister_scope_other hg
    simp [runTask, scope, hscope]
  | spawn sp => exact Requests.runSpawn_scope_other outcome now hg
  | post out =>
    rcases (runTask_post O store outcome now out).2.2 with hsame | ⟨seq, h⟩
    · rw [hsame]
    · exact Requests.busEnqueue_scope_other hg h
  | broadcast group outs sent =>
    cases outs with
    | nil => rfl
    | cons out rest =>
      have hout : out.group ≠ g := fun h => hg ((hu out (List.mem_cons_self ..)).symm.trans h)
      rcases (runTask_broadcast O store outcome now group out rest sent).2.2 with hsame | ⟨seq, h⟩
      · rw [hsame]
      · exact Requests.busEnqueue_scope_other hout h
  | recv r => exact runRecv_scope_other outcome now hg
  | kill k => exact runKill_scope_other outcome hg

lemma writes_runTask (t : Task) (outcome : Bool) (now : UInt64) :
    Writes t.mints store (runTask O store outcome now t).store := by
  cases t with
  | registerPrime group tokenHash => exact .register rfl
  | spawn sp => exact Requests.writes_runSpawn outcome now rfl
  | post out =>
    rcases (runTask_post O store outcome now out).2.2 with hsame | ⟨seq, h⟩
    · rw [hsame]
      exact .none
    · exact .enqueue h
  | broadcast group outs sent =>
    cases outs with
    | nil => exact .none
    | cons out rest =>
      rcases (runTask_broadcast O store outcome now group out rest sent).2.2 with hsame | ⟨seq, h⟩
      · rw [hsame]
        exact .none
      · exact .enqueue h
  | recv r => exact writes_runRecv outcome now
  | kill k => exact writes_runKill k outcome

/-- The task goes on for the same group, with no other agent to register. -/
structure Task.Continues (t t' : Task) : Prop where
  group : t'.group = t.group
  mints : ∀ row, t'.mints row → t.mints row
  uniform : t.Uniform → t'.Uniform

lemma spawnAnswer_continues {sp sp' : Spawn} {t : Task} (hg : sp'.group = sp.group)
    (hrow : sp'.agentRow = sp.agentRow) (h : (spawnAnswer sp').1 = some t) :
    (Task.spawn sp).Continues t := by
  rw [spawnAnswer] at h
  split at h
  · cases h
  · cases h
  · obtain rfl := Option.some.inj h
    exact ⟨hg, fun row hr => Eq.trans hr hrow, fun _ => trivial⟩

lemma killAnswer_continues {k k' : Kill} {t : Task} (hg : k'.group = k.group)
    (h : (killAnswer k').1 = some t) : (Task.kill k).Continues t := by
  rw [killAnswer] at h
  split at h
  · cases h
  · split at h <;> cases h
  · cases h
  · obtain rfl := Option.some.inj h
    exact ⟨hg, fun _ hr => hr, fun _ => trivial⟩

lemma broadcast_continues {group : String} {outs rest : List Outgoing} {sent sent' : ℕ}
    (h : ∀ out ∈ rest, out ∈ outs) :
    (Task.broadcast group outs sent).Continues (.broadcast group rest sent') :=
  ⟨rfl, fun _ hr => hr, fun hu out hout => hu out (h out hout)⟩

lemma runTask_continues {t t' : Task} {outcome : Bool} {now : UInt64}
    (h : (runTask O store outcome now t).task = some t') : t.Continues t' := by
  cases t with
  | registerPrime group tokenHash => cases h
  | spawn sp =>
    obtain ⟨hg, hrow⟩ := @Requests.runSpawn_fields store sp outcome now
    exact spawnAnswer_continues hg hrow h
  | post out =>
    rw [(runTask_post O store outcome now out).1] at h
    cases h
  | broadcast group outs sent =>
    cases outs with
    | nil => cases h
    | cons out rest =>
      obtain ⟨⟨n, hn⟩, _⟩ := runTask_broadcast O store outcome now group out rest sent
      obtain rfl := Option.some.inj (hn.symm.trans h)
      exact broadcast_continues fun out hout => List.mem_cons_of_mem _ hout
  | recv r =>
    obtain ⟨r', hr', rfl⟩ := Option.map_eq_some_iff.mp h
    exact ⟨runRecv_group hr', fun _ hr => hr, fun _ => trivial⟩
  | kill k => exact killAnswer_continues (runKill_group k outcome) h

lemma failTask_continues {t t' : Task} (h : (failTask t).1 = some t') : t.Continues t' := by
  cases t with
  | registerPrime group tokenHash => cases h
  | spawn sp =>
    exact @spawnAnswer_continues sp { sp with pc := Status.spawnFails sp.request sp.pc } t' rfl rfl h
  | post out => cases h
  | broadcast group outs sent =>
    obtain rfl := Option.some.inj h
    exact broadcast_continues fun out hout => List.mem_of_mem_tail hout
  | recv r =>
    simp only [failTask] at h
    split at h <;> cases h
  | kill k =>
    exact @killAnswer_continues k { k with pc := Status.killFails k.kind k.pc } t' rfl h

lemma failTask_scope (t : Task) :
    failTask (t.scope g) = ((failTask t).1.map (Task.scope g), (failTask t).2) := by
  cases t with
  | spawn sp => exact Prod.ext (spawnAnswer_scope _).symm rfl
  | recv r =>
    obtain ⟨group, agent, session, since, follow, consume, rx, phase⟩ := r
    cases phase <;> rfl
  | kill k => exact Prod.ext (killAnswer_scope _).symm rfl
  | _ => rfl

lemma runTask_child (t : Task) (outcome : Bool) (now : UInt64) :
    (runTask O store outcome now t).child.Within t.group := by
  cases t with
  | registerPrime group tokenHash => trivial
  | spawn sp =>
    simp only [runTask, spawnChild]
    split
    · rfl
    · rfl
    · trivial
  | post out =>
    rw [(runTask_post O store outcome now out).2.1]
    trivial
  | broadcast group outs sent =>
    cases outs with
    | nil => trivial
    | cons out rest =>
      rw [(runTask_broadcast O store outcome now group out rest sent).2.1]
      trivial
  | recv r => trivial
  | kill k =>
    simp only [runTask, killedChild]
    split
    · rfl
    · trivial

lemma post_scope {s : Supervisor} (kind : AgentMsgKind) (text : Bytes) (now : UInt64)
    (hg : s.group = g) :
    s.post (scope g store) kind text now = scope g (s.post store kind text now) := by
  simp only [Supervisor.post]
  rw [Requests.busEnqueue_scope now hg]
  cases store.busEnqueue ⟨s.group, s.session, s.session, s.prime, kind, text⟩ now with
  | error e => rfl
  | ok x => rfl

lemma post_scope_other {s : Supervisor} (kind : AgentMsgKind) (text : Bytes) (now : UInt64)
    (hg : s.group ≠ g) : scope g (s.post store kind text now) = scope g store := by
  simp only [Supervisor.post]
  split
  · next h => exact Requests.busEnqueue_scope_other hg h
  · rfl

lemma writes_post {new : AgentRow → Prop} (s : Supervisor) (kind : AgentMsgKind) (text : Bytes)
    (now : UInt64) : Writes new store (s.post store kind text now) := by
  simp only [Supervisor.post]
  split
  · next h => exact .enqueue h
  · exact .none

lemma setStatus_scope {s : Supervisor} (status : AgentStatus) (hg : s.group = g) :
    s.setStatus (scope g store) status = scope g (s.setStatus store status) := by
  subst hg
  simp [Supervisor.setStatus, scope, AgentTable.agentSetStatus_scope]

lemma setStatus_scope_other {s : Supervisor} (status : AgentStatus) (hg : s.group ≠ g) :
    scope g (s.setStatus store status) = scope g store := by
  simp [Supervisor.setStatus, scope, AgentTable.agentSetStatus_scope_other _ _ hg]

lemma runSupervisor_scope {s : Supervisor} (text : Bytes) (now : UInt64) (a : Await)
    (hg : s.group = g) :
    runSupervisor O (scope g store) s text now a =
      (scope g (runSupervisor O store s text now a).1, (runSupervisor O store s text now a).2) := by
  cases a with
  | pending timer =>
    subst hg
    simp [runSupervisor, scope, BusTable.pending_scope]
  | markConsumed left timer =>
    subst hg
    cases hfeed : s.feed with
    | nil => simp [runSupervisor, hfeed]
    | cons row rest => simp [runSupervisor, hfeed, scope, BusTable.agentMsgMarkConsumed_scope]
  | setRunning left timer => exact Prod.ext (setStatus_scope _ hg) rfl
  | trace => exact Prod.ext (post_scope _ _ _ hg) rfl
  | turnOutput => exact Prod.ext (post_scope _ _ _ hg) rfl
  | setAwaiting => exact Prod.ext (setStatus_scope _ hg) rfl
  | idleNotice => exact Prod.ext (post_scope _ _ _ hg) rfl
  | setExited => exact Prod.ext (setStatus_scope _ hg) rfl
  | exitNotice => exact Prod.ext (post_scope _ _ _ hg) rfl
  | _ => rfl

lemma runSupervisor_scope_other {s : Supervisor} (text : Bytes) (now : UInt64) (a : Await)
    (hg : s.group ≠ g) : scope g (runSupervisor O store s text now a).1 = scope g store := by
  cases a with
  | markConsumed left timer =>
    cases hfeed : s.feed with
    | nil => simp [runSupervisor, hfeed]
    | cons row rest =>
      simp [runSupervisor, hfeed, scope, BusTable.agentMsgMarkConsumed_scope_other _ _ _ hg]
  | setRunning left timer => exact setStatus_scope_other _ hg
  | trace => exact post_scope_other _ _ _ hg
  | turnOutput => exact post_scope_other _ _ _ hg
  | setAwaiting => exact setStatus_scope_other _ hg
  | idleNotice => exact post_scope_other _ _ _ hg
  | setExited => exact setStatus_scope_other _ hg
  | exitNotice => exact post_scope_other _ _ _ hg
  | _ => rfl

lemma writes_runSupervisor {new : AgentRow → Prop} (s : Supervisor) (text : Bytes) (now : UInt64)
    (a : Await) : Writes new store (runSupervisor O store s text now a).1 := by
  cases a with
  | markConsumed left timer =>
    cases hfeed : s.feed with
    | nil =>
      simp only [runSupervisor, hfeed]
      exact .none
    | cons row rest =>
      simp only [runSupervisor, hfeed]
      exact .mark _ _ _ now
  | setRunning left timer => exact .agents _ _
  | trace => exact writes_post s _ text now
  | turnOutput => exact writes_post s _ text now
  | setAwaiting => exact .agents _ _
  | idleNotice => exact writes_post s _ text now
  | setExited => exact .agents _ _
  | exitNotice => exact writes_post s _ text now
  | _ => exact .none

lemma runSupervisor_group {s s' : Supervisor} {text : Bytes} {now : UInt64} {a : Await}
    (h : (runSupervisor O store s text now a).2 = some s') : s'.group = s.group := by
  cases a with
  | markConsumed left timer =>
    simp only [runSupervisor] at h
    split at h <;>
    · obtain rfl := Option.some.inj h
      rfl
  | forgetChild => cases h
  | _ =>
    obtain rfl := Option.some.inj h
    rfl

lemma command_scope (r : GroupRequest) (now : UInt64) :
    command (scope g store) g now r =
      (scope g (command store g now r).1, (command store g now r).2) := by
  cases r with
  | groupNew tokenHash =>
    have hscope := GroupTable.groupCreate_scope (g := g) store.groups now
    simp only [command, scope, hscope]
    split <;> rfl
  | sendMessage session kind text =>
    simp only [command, Requests.State.sendMessage, scope, SessionTable.sessionGet_scope]
    cases store.sessions.sessionGet g session with
    | none => rfl
    | some sess => rfl
  | broadcastMessage kind text =>
    simp [command, Requests.State.broadcastMessage, scope, SessionTable.sessionList_scope]

lemma command_scope_other {group : String} (r : GroupRequest) (now : UInt64) (hg : group ≠ g) :
    scope g (command store group now r).1 = scope g store := by
  cases r with
  | groupNew tokenHash =>
    have hscope := GroupTable.groupCreate_scope_other store.groups now hg
    simp only [command]
    split
    · simp [scope, hscope]
    · rfl
  | sendMessage session kind text =>
    simp only [command]
    split <;> rfl
  | broadcastMessage kind text => rfl

lemma writes_command {new : AgentRow → Prop} (group : String) (r : GroupRequest) (now : UInt64) :
    Writes new store (command store group now r).1 := by
  cases r with
  | groupNew tokenHash =>
    simp only [command]
    split
    · exact .groups _
    · exact .none
  | sendMessage session kind text =>
    simp only [command]
    split <;> exact .none
  | broadcastMessage kind text => exact .none

def AgentRequest.newToken : AgentRequest → Option Bytes
  | .spawn _ _ _ _ _ childHash => some childHash
  | _ => none

def GroupRequest.newToken : GroupRequest → Option Bytes
  | .groupNew tokenHash => some tokenHash
  | _ => none

def AgentRequest.Mints (mine : Bytes → Bool) (tokenHash : Bytes) (r : AgentRequest) : Prop :=
  ∀ x ∈ r.newToken, (mine x = true ↔ mine tokenHash = true)

def GroupRequest.Mints (g : String) (mine : Bytes → Bool) (group : String) (r : GroupRequest) :
    Prop :=
  ∀ x ∈ r.newToken, (mine x = true ↔ group = g)

/-- A new task for `group`, with at most one agent to register, under the request's new token. -/
structure Task.Starts (group : String) (newToken : Option Bytes) (t : Task) : Prop where
  group : t.group = group
  uniform : t.Uniform
  mints : ∀ row, t.mints row → newToken = some row.tokenHash
  empty : ∀ g, t.scope g = t

/-- A task for `group`, whose new tokens are those of `g` or not as `mine` says. -/
structure Task.Fits (g : String) (mine : Bytes → Bool) (group : String) (t : Task) : Prop where
  group : t.group = group
  uniform : t.Uniform
  mints : ∀ row, t.mints row → (mine row.tokenHash = true ↔ row.groupName = g)

variable {mine : Bytes → Bool}

lemma Task.Fits.continues {group : String} {t t' : Task} (h : t.Fits g mine group)
    (hc : t.Continues t') : t'.Fits g mine group :=
  ⟨hc.group.trans h.group, hc.uniform h.uniform, fun row hr => h.mints row (hc.mints row hr)⟩

lemma mints_group {t : Task} {row : AgentRow} (h : t.mints row) : row.groupName = t.group := by
  cases t with
  | registerPrime group tokenHash =>
    obtain rfl : row = primeRow group tokenHash := h
    rfl
  | spawn sp =>
    obtain rfl : row = sp.agentRow := h
    rfl
  | _ => exact h.elim

lemma Task.Starts.fits {group : String} {newToken : Option Bytes} {t : Task}
    (h : t.Starts group newToken) (hm : ∀ x ∈ newToken, (mine x = true ↔ group = g)) :
    t.Fits g mine group := by
  refine ⟨h.group, h.uniform, fun row hrow => ?_⟩
  rw [mints_group hrow, h.group]
  exact hm _ (h.mints row hrow)

lemma command_starts {group : String} {r : GroupRequest} {now : UInt64} {t : Task}
    (h : (command store group now r).2.1 = some t) : t.Starts group r.newToken := by
  cases r with
  | groupNew tokenHash =>
    simp only [command] at h
    split at h
    · obtain rfl := Option.some.inj h
      refine ⟨rfl, trivial, fun row hr => ?_, fun _ => rfl⟩
      obtain rfl : row = primeRow group tokenHash := hr
      rfl
    · cases h
  | sendMessage session kind text =>
    simp only [command, Requests.State.sendMessage] at h
    split at h
    · next hout =>
      obtain rfl := Option.some.inj h
      split at hout
      · cases hout
      · obtain rfl := Except.ok.inj hout
        exact ⟨rfl, trivial, fun _ hr => hr.elim, fun _ => rfl⟩
    · cases h
  | broadcastMessage kind text =>
    obtain rfl := Option.some.inj h
    refine ⟨rfl, ?_, fun _ hr => hr.elim, fun _ => rfl⟩
    intro out hout
    obtain ⟨s, _, rfl⟩ := List.mem_map.mp hout
    rfl

lemma resolveAgent_ok {tokenHash : Bytes} {me : AgentRow}
    (h : resolveAgent store tokenHash = .ok me) :
    store.agents.agentByToken tokenHash = some me := by
  rw [resolveAgent] at h
  split at h
  · cases h
  · next heq =>
    rw [heq, Except.ok.inj h]

lemma agentByToken_mem {tokenHash : Bytes} {me : AgentRow}
    (h : store.agents.agentByToken tokenHash = some me) :
    me ∈ store.agents.rows ∧ me.tokenHash = tokenHash :=
  ⟨List.mem_of_find?_eq_some h, by simpa using List.find?_some h⟩

lemma agentByToken_of_mem {r : AgentRow} (hr : r ∈ store.agents.rows) :
    store.agents.agentByToken r.tokenHash = some r := by
  cases hfind : store.agents.agentByToken r.tokenHash with
  | none =>
    have hno := List.find?_eq_none.mp hfind r hr
    simp at hno
  | some me =>
    obtain ⟨hmem, heq⟩ := agentByToken_mem hfind
    rw [List.inj_on_of_nodup_map store.agents.tokens hmem hr heq]

lemma accept_scope {tokenHash : Bytes} {now : UInt64} (r : AgentRequest)
    (hown : ∀ r ∈ store.agents.rows, r.tokenHash = tokenHash → r.groupName = g) :
    accept (scope g store) tokenHash now r = accept store tokenHash now r := by
  have htoken : (scope g store).agents.agentByToken tokenHash =
      store.agents.agentByToken tokenHash := AgentTable.agentByToken_scope hown
  have hresolve : resolveAgent (scope g store) tokenHash = resolveAgent store tokenHash := by
    rw [resolveAgent, htoken]
    rfl
  cases r with
  | spawn group session mode initialPrompt coordinator childHash =>
    simp only [accept, Requests.State.requestSpawn, htoken]
  | agentSend session kind payload =>
    simp only [accept, Requests.State.agentSend, htoken]
    cases hme : store.agents.agentByToken tokenHash with
    | none => rfl
    | some me =>
      obtain ⟨hmem, heq⟩ := agentByToken_mem hme
      have hg := hown me hmem heq
      subst hg
      simp only [scope, SessionTable.sessionGet_scope]
  | _ => simp only [accept, hresolve]

lemma bind_ok {α β : Type} {x : Except IpcError α} {f : α → Except IpcError β} {b : β}
    (h : x >>= f = .ok b) : ∃ a, x = .ok a ∧ f a = .ok b := by
  cases x with
  | error e => cases h
  | ok a => exact ⟨a, rfl, h⟩

lemma accept_starts {tokenHash : Bytes} {now : UInt64} {r : AgentRequest} {t : Task}
    {events : List Event} (h : accept store tokenHash now r = .ok (some t, events)) :
    ∃ me, store.agents.agentByToken tokenHash = some me ∧ t.Starts me.groupName r.newToken := by
  cases r with
  | spawn group session mode initialPrompt coordinator childHash =>
    obtain ⟨sp, hsp, h⟩ := bind_ok h
    obtain ⟨me, hme, hgroup, _, rfl⟩ := Requests.State.requestSpawn_cases hsp
    cases h
    refine ⟨me, hme, hgroup.symm, trivial, fun row hr => ?_, fun _ => rfl⟩
    obtain rfl := hr
    rfl
  | agentSend session kind payload =>
    obtain ⟨out, hout, h⟩ := bind_ok h
    obtain ⟨me, sess, hme, _, ⟨_, rfl⟩ | ⟨_, _, rfl⟩⟩ := Requests.State.agentSend_cases hout
    · cases h
      exact ⟨me, hme, rfl, trivial, fun _ hr => hr.elim, fun _ => rfl⟩
    · cases h
      exact ⟨me, hme, rfl, trivial, fun _ hr => hr.elim, fun _ => rfl⟩
  | agentRecv session sinceMs follow consume =>
    obtain ⟨me, hme, h⟩ := bind_ok h
    cases h
    exact ⟨me, resolveAgent_ok hme, rfl, trivial, fun _ hr => hr.elim, fun _ => rfl⟩
  | whoAmI =>
    obtain ⟨me, hme, h⟩ := bind_ok h
    cases h
  | agentKill agent =>
    obtain ⟨me, hme, h⟩ := bind_ok h
    split at h
    · cases h
    · cases h
      exact ⟨me, resolveAgent_ok hme, rfl, trivial, fun _ hr => hr.elim, fun _ => rfl⟩
  | sessionClose session =>
    obtain ⟨me, hme, h⟩ := bind_ok h
    split at h
    · cases h
    · cases h
      exact ⟨me, resolveAgent_ok hme, rfl, trivial, fun _ hr => hr.elim, fun _ => rfl⟩

end WalkieTalkie.Orchestration.Clients
