import WalkieTalkie.Orchestration.Isolation
import WalkieTalkie.Orchestration.Registry

/-! What a kill or a close leaves of a session's name. No request deletes a row of an agent or of a
session, a spawn looks for both before all else, and so a name that was killed or closed is not
spawned again. -/

namespace WalkieTalkie.Orchestration.Respawn

open Proto Store Lib Lib.Runs Clients
open Registry (Extends Registered extends_updateStatus extends_agentRegister extends_sessionCreate
  extends_setStatus)
open Requests (Spawn Writes)
open Lifecycle (KillRequest)

variable {O : Sorting} {store store' : Requests.State} {group session : String}

lemma extends_writes {new : AgentRow → Prop} (h : Writes new store store') : Extends store store' := by
  cases h with
  | none => exact .refl store
  | groups groups => exact .of_eq rfl rfl
  | enqueue h =>
    obtain ⟨bus, row, _, rfl⟩ := Routing.busEnqueue_ok h
    exact .of_eq rfl rfl
  | mark group session seq now => exact .of_eq rfl rfl
  | agents p status => exact extends_updateStatus store p status
  | register hnew => exact extends_agentRegister store _
  | create row => exact extends_sessionCreate store row
  | close group session => exact extends_setStatus store _ .closed

lemma extends_reconcile (store : Requests.State) : Extends store { store with
    agents := (reconcileStaleAgents store.agents store.sessions).1
    sessions := (reconcileStaleAgents store.agents store.sessions).2 } :=
  (extends_updateStatus store _ _).trans (extends_setStatus
    { store with agents := (reconcileStaleAgents store.agents store.sessions).1 } _ _)

variable {st st' : Clients.State} {l : Label}

lemma extends_step (hs : step O st l = some st') : Extends st.store st'.store := by
  cases l with
  | request id tokenHash r now =>
    obtain ⟨_, rfl⟩ := stepRequest_iff.mp hs
    exact .refl _
  | command id group r now =>
    obtain ⟨_, rfl⟩ := stepCommand_iff.mp hs
    exact extends_writes (@writes_command st.store (fun _ => False) group r now)
  | run id opener outcome now =>
    obtain ⟨c, t, _, _, rfl, rfl⟩ := stepRun_iff.mp hs
    rw [runChild_store]
    exact extends_writes (writes_runTask t outcome now)
  | fail id opener =>
    obtain ⟨c, t, _, _, rfl, rfl⟩ := stepFail_iff.mp hs
    exact .refl _
  | supervise id group a text now =>
    obtain ⟨s, _, rfl, rfl⟩ := stepSupervise_iff.mp hs
    exact extends_writes (@writes_runSupervisor O st.store (fun _ => False) s text now a)
  | restart =>
    obtain rfl := Option.some.inj hs
    exact .refl _
  | reconcile =>
    obtain rfl := Option.some.inj hs
    exact extends_reconcile st.store

/-- A row of the name, of an agent or of a session, is in the store. -/
def Taken (store : Requests.State) (group name : String) : Prop :=
  Registered store group name ∨ ∃ s ∈ store.sessions.rows, s.groupName = group ∧ s.name = name

lemma Taken.extends (h : Taken store group session) (he : Extends store store') :
    Taken store' group session := by
  rcases h with h | ⟨s, hs, hg, hn⟩
  · exact Or.inl (he.registered h)
  · obtain ⟨s', hs', hsame⟩ := he.sessions s hs
    obtain ⟨hg', hn', _⟩ := Registry.session_withStatus_eq hsame
    exact Or.inr ⟨s', hs', hg'.trans hg, hn'.trans hn⟩

lemma agentGet_isSome :
    (store.agents.agentGet group session).isSome = true ↔ Registered store group session := by
  constructor
  · intro h
    obtain ⟨r, hr⟩ := Option.isSome_iff_exists.mp h
    obtain ⟨hmem, hkey⟩ := Table.find_eq_some.mp hr
    obtain ⟨hg, hn⟩ := Prod.mk.inj hkey
    exact ⟨r, hmem, hg, hn⟩
  · rintro ⟨r, hmem, rfl, rfl⟩
    exact Option.isSome_iff_exists.mpr ⟨r, Table.find_eq_some.mpr ⟨hmem, rfl⟩⟩

lemma sessionGet_isSome : (store.sessions.sessionGet group session).isSome = true ↔
    ∃ s ∈ store.sessions.rows, s.groupName = group ∧ s.name = session := by
  constructor
  · intro h
    obtain ⟨s, hs⟩ := Option.isSome_iff_exists.mp h
    obtain ⟨hmem, hkey⟩ := Table.find_eq_some.mp hs
    obtain ⟨hg, hn⟩ := Prod.mk.inj hkey
    exact ⟨s, hmem, hg, hn⟩
  · rintro ⟨s, hmem, rfl, rfl⟩
    exact Option.isSome_iff_exists.mpr ⟨s, Table.find_eq_some.mpr ⟨hmem, rfl⟩⟩

/-- What a step does to a connection that is open before it. -/
inductive Turn (O : Sorting) (store : Requests.State) (c : Conn) : Conn → Prop
  | receive (rows : List AgentMsgRow) : Turn O store c (c.receive rows)
  | run (t : Task) (outcome : Bool) (now : UInt64) (ht : c.task = some t) :
      Turn O store c (answered c (runTask O store outcome now t).task
        (runTask O store outcome now t).events)
  | fail (t : Task) (ht : c.task = some t) :
      Turn O store c (answered c (failTask t).1 (failTask t).2)
  | drop : Turn O store c { c with task := none }

lemma put_conn {id : ℕ} {c : Conn} (hid : st.conns id = some c) (store : Requests.State) :
    (st.put store).conns id = some (c.receive (newRows st.store store)) :=
  congrArg (Option.map _) hid

lemma setConn_other {id i : ℕ} (hi : i ≠ id) (c : Conn) : (st.setConn id c).conns i = st.conns i :=
  Function.update_of_ne hi ..

lemma setConn_self (st : Clients.State) (id : ℕ) (c : Conn) : (st.setConn id c).conns id = some c :=
  Function.update_self ..

lemma turn_of_step {i : ℕ} {c : Conn} (hs : step O st l = some st') (hi : st.conns i = some c) :
    ∃ c', st'.conns i = some c' ∧ Turn O st.store c c' := by
  have hquiet : ∃ c', st.conns i = some c' ∧ Turn O st.store c c' :=
    ⟨c, hi, by simpa only [receive_nil] using Turn.receive []⟩
  cases l with
  | request id tokenHash r now =>
    obtain ⟨hnone, rfl⟩ := stepRequest_iff.mp hs
    have hne : i ≠ id := by
      rintro rfl
      rw [hnone] at hi
      cases hi
    rw [setConn_other hne]
    exact hquiet
  | command id group r now =>
    obtain ⟨hnone, rfl⟩ := stepCommand_iff.mp hs
    have hne : i ≠ id := by
      rintro rfl
      rw [hnone] at hi
      cases hi
    rw [setConn_other hne]
    exact ⟨_, put_conn hi _, .receive _⟩
  | run id opener outcome now =>
    obtain ⟨d, t, hid, ht, rfl, rfl⟩ := stepRun_iff.mp hs
    rw [runChild_conns]
    by_cases hne : i = id
    · subst hne
      obtain rfl := Option.some.inj (hid.symm.trans hi)
      exact ⟨_, setConn_self .., .run t outcome now ht⟩
    · rw [setConn_other hne]
      exact ⟨_, put_conn hi _, .receive _⟩
  | fail id opener =>
    obtain ⟨d, t, hid, ht, rfl, rfl⟩ := stepFail_iff.mp hs
    by_cases hne : i = id
    · subst hne
      obtain rfl := Option.some.inj (hid.symm.trans hi)
      exact ⟨_, setConn_self .., .fail t ht⟩
    · rw [setConn_other hne]
      exact hquiet
  | supervise id group a text now =>
    obtain ⟨s, _, rfl, rfl⟩ := stepSupervise_iff.mp hs
    exact ⟨_, put_conn hi _, .receive _⟩
  | restart =>
    obtain rfl := Option.some.inj hs
    exact ⟨_, congrArg (Option.map _) hi, .drop⟩
  | reconcile =>
    obtain rfl := Option.some.inj hs
    exact hquiet

def killRequest (session : String) : KillRequest → AgentRequest
  | .agentKill => .agentKill session
  | .sessionClose => .sessionClose session

/-- A connection that asked to kill or to close the name. Past its first look a row is there. -/
structure Kills (store : Requests.State) (group session : String) (c : Conn) : Prop where
  task : ∀ t, c.task = some t → ∃ k : Kill, t = .kill k ∧ k.group = group ∧ k.session = session ∧
    (k.pc = .check ∧ k.agent = session ∨ Taken store group session)
  answer : .ok ∈ c.written → Taken store group session

lemma runKill_session (k : Kill) (works : Bool) :
    (runKill store k works).2.session = k.session := by
  rw [runKill]
  split
  · split
    · rfl
    · split <;> rfl
  all_goals rfl

lemma runKill_check {k : Kill} {works : Bool} (hpc : k.pc = .check) (hg : k.group = group)
    (hs : k.session = session) (ha : k.agent = session) :
    (runKill store k works).2.pc = .done (.error .notFound) ∨ Taken store group session := by
  subst hg hs
  rw [runKill, hpc]
  dsimp only
  split
  · cases h : (store.agents.agentGet k.group k.agent).isSome with
    | false => exact Or.inl rfl
    | true =>
      rw [ha] at h
      exact Or.inr (Or.inl (agentGet_isSome.mp h))
  · split
    · next sess hsess =>
      have hsome := Option.isSome_iff_exists.mpr ⟨sess, hsess⟩
      exact Or.inr (Or.inr (sessionGet_isSome.mp hsome))
    · exact Or.inl rfl

lemma killAnswer_task {k : Kill} {t : Task} (h : (killAnswer k).1 = some t) : t = .kill k := by
  rw [killAnswer] at h
  split at h
  · cases h
  · split at h <;> cases h
  · cases h
  · exact (Option.some.inj h).symm

lemma killAnswer_refused {k : Kill} {code : IpcErrorCode} (h : k.pc = .done (.error code)) :
    (killAnswer k).1 = none ∧ .ok ∉ (killAnswer k).2 := by
  obtain ⟨kind, group, agent, session, pc⟩ := k
  obtain rfl : pc = .done (.error code) := h
  cases code <;> cases kind <;> simp [killAnswer]

lemma Kills.mono {c : Conn} (h : Kills store group session c) (he : Extends store store') :
    Kills store' group session c := by
  refine ⟨fun t ht => ?_, fun hok => (h.answer hok).extends he⟩
  obtain ⟨k, hk, hg, hs, hpc | htaken⟩ := h.task t ht
  · exact ⟨k, hk, hg, hs, Or.inl hpc⟩
  · exact ⟨k, hk, hg, hs, Or.inr (htaken.extends he)⟩

lemma Kills.answered {c : Conn} {k : Kill} (hc : .ok ∈ c.written → Taken store group session)
    (hg : k.group = group) (hs : k.session = session)
    (hk : (∃ code, k.pc = .done (.error code)) ∨ Taken store group session) :
    Kills store group session (answered c (killAnswer k).1 (killAnswer k).2) := by
  rcases hk with ⟨code, hpc⟩ | htaken
  · obtain ⟨hnone, hno⟩ := killAnswer_refused hpc
    refine ⟨fun t ht => ?_, fun hok => ?_⟩
    · rw [Clients.answered, hnone] at ht
      cases ht
    · rcases List.mem_append.mp hok with hok | hok
      · exact hc hok
      · exact (hno hok).elim
  · exact ⟨fun t ht => ⟨k, killAnswer_task ht, hg, hs, Or.inr htaken⟩, fun _ => htaken⟩

lemma receive_cases (rows : List AgentMsgRow) (c : Conn) :
    c.receive rows = c ∨ ∃ r, c.task = some (.recv r) := by
  rw [Conn.receive]
  split
  · next r hr => exact Or.inr ⟨r, hr⟩
  · exact Or.inl rfl

lemma Kills.turn {c c' : Conn} (h : Kills store group session c) (ht : Turn O store c c') :
    Kills store group session c' := by
  cases ht with
  | receive rows =>
    rcases receive_cases rows c with hsame | ⟨r, hr⟩
    · rw [hsame]
      exact h
    · obtain ⟨k, hk, _⟩ := h.task _ hr
      cases hk
  | run t outcome now ht =>
    obtain ⟨k, rfl, hg, hs, hk⟩ := h.task t ht
    refine .answered h.answer ?_ ?_ ?_
    · exact (runKill_group k outcome).trans hg
    · exact (runKill_session k outcome).trans hs
    · rcases hk with ⟨hpc, ha⟩ | htaken
      · rcases runKill_check hpc hg hs ha with hpc' | htaken
        · exact Or.inl ⟨_, hpc'⟩
        · exact Or.inr htaken
      · exact Or.inr htaken
  | fail t ht =>
    obtain ⟨k, rfl, hg, hs, hk⟩ := h.task t ht
    refine .answered h.answer hg hs ?_
    rcases hk with ⟨hpc, _⟩ | htaken
    · exact Or.inl ⟨.internal, by rw [hpc]; rfl⟩
    · exact Or.inr htaken
  | drop => exact ⟨fun t ht => (by cases ht), h.answer⟩

lemma accept_killRequest {now : UInt64} {tokenHash : Bytes} {me : AgentRow} {kind : KillRequest}
    {x : Option Task × List Event} (hme : store.agents.agentByToken tokenHash = some me)
    (h : accept store tokenHash now (killRequest session kind) = .ok x) :
    x = (some (.kill ⟨kind, me.groupName, session, session, .check⟩), []) := by
  cases kind with
  | agentKill =>
    obtain ⟨me', hme', h⟩ := bind_ok h
    obtain rfl := Option.some.inj (hme.symm.trans (resolveAgent_ok hme'))
    split at h
    · cases h
    · cases h
      rfl
  | sessionClose =>
    obtain ⟨me', hme', h⟩ := bind_ok h
    obtain rfl := Option.some.inj (hme.symm.trans (resolveAgent_ok hme'))
    split at h
    · cases h
    · cases h
      rfl

lemma kills_accept (now : UInt64) {tokenHash : Bytes} {me : AgentRow} (kind : KillRequest)
    (hme : store.agents.agentByToken tokenHash = some me) (hg : me.groupName = group) :
    Kills store group session
      (accepted (accept store tokenHash now (killRequest session kind)) (.token tokenHash)) := by
  subst hg
  cases h : accept store tokenHash now (killRequest session kind) with
  | error e =>
    refine ⟨fun t ht => (by cases ht), fun hok => ?_⟩
    cases List.mem_singleton.mp hok
  | ok x =>
    obtain rfl := accept_killRequest hme h
    refine ⟨fun t ht => ?_, fun hok => by cases hok⟩
    obtain rfl := Option.some.inj ht
    exact ⟨_, rfl, rfl, rfl, Or.inl ⟨rfl, rfl⟩⟩

/-- A spawn of a name that is taken, before it has looked for both rows. -/
structure Refuses (store : Requests.State) (group session : String) (c : Conn) : Prop where
  task : ∀ t, c.task = some t → ∃ sp : Spawn, t = .spawn sp ∧ sp.group = group ∧
    sp.session = session ∧ (sp.pc = .sessionGet ∧ Taken store group session ∨
      sp.pc = .agentGet ∧ Registered store group session)
  answer : ∀ tokenHash, .spawned group session tokenHash ∉ c.written

lemma Refuses.mono {c : Conn} (h : Refuses store group session c) (he : Extends store store') :
    Refuses store' group session c := by
  refine ⟨fun t ht => ?_, h.answer⟩
  obtain ⟨sp, hsp, hg, hs, ⟨hpc, htaken⟩ | ⟨hpc, hreg⟩⟩ := h.task t ht
  · exact ⟨sp, hsp, hg, hs, Or.inl ⟨hpc, htaken.extends he⟩⟩
  · exact ⟨sp, hsp, hg, hs, Or.inr ⟨hpc, he.registered hreg⟩⟩

lemma runSpawn_sessionGet {sp : Spawn} (outcome : Bool) (now : UInt64) (hpc : sp.pc = .sessionGet) :
    store.runSpawn sp outcome now = (store, { sp with
      pc := SpawnPc.next sp.request .sessionGet
        (store.sessions.sessionGet sp.group sp.session).isSome }) := by
  simp only [Requests.State.runSpawn, hpc, SpawnPc.effect, Requests.State.runOp]

lemma runSpawn_agentGet {sp : Spawn} (outcome : Bool) (now : UInt64) (hpc : sp.pc = .agentGet) :
    store.runSpawn sp outcome now = (store, { sp with
      pc := SpawnPc.next sp.request .agentGet
        (store.agents.agentGet sp.group sp.session).isSome }) := by
  simp only [Requests.State.runSpawn, hpc, SpawnPc.effect, Requests.State.runOp]

lemma Refuses.refused {c : Conn} (h : Refuses store group session c) (code : IpcErrorCode) :
    Refuses store group session (answered c none [.refused code]) := by
  refine ⟨fun t ht => (by cases ht), fun tokenHash hmem => ?_⟩
  rcases List.mem_append.mp hmem with hmem | hmem
  · exact h.answer tokenHash hmem
  · cases List.mem_singleton.mp hmem

lemma runSpawn_taken {sp : Spawn} (outcome : Bool) (now : UInt64) (hpc : sp.pc = .sessionGet)
    (h : Taken store sp.group sp.session) :
    store.runSpawn sp outcome now = (store, { sp with pc := .done (.error .badRequest) }) ∨
      store.runSpawn sp outcome now = (store, { sp with pc := .agentGet }) ∧
        Registered store sp.group sp.session := by
  rw [runSpawn_sessionGet outcome now hpc]
  cases hsome : (store.sessions.sessionGet sp.group sp.session).isSome with
  | true => exact Or.inl rfl
  | false =>
    rcases h with hreg | hsess
    · exact Or.inr ⟨rfl, hreg⟩
    · rw [sessionGet_isSome.mpr hsess] at hsome
      cases hsome

lemma runSpawn_registered {sp : Spawn} (outcome : Bool) (now : UInt64) (hpc : sp.pc = .agentGet)
    (h : Registered store sp.group sp.session) :
    store.runSpawn sp outcome now = (store, { sp with pc := .done (.error .badRequest) }) := by
  rw [runSpawn_agentGet outcome now hpc, agentGet_isSome.mpr h]
  rfl

lemma Refuses.turn {c c' : Conn} (h : Refuses store group session c) (ht : Turn O store c c') :
    Refuses store group session c' := by
  cases ht with
  | receive rows =>
    rcases receive_cases rows c with hsame | ⟨r, hr⟩
    · rw [hsame]
      exact h
    · obtain ⟨sp, hsp, _⟩ := h.task _ hr
      cases hsp
  | run t outcome now ht =>
    obtain ⟨sp, rfl, rfl, rfl, ⟨hpc, htaken⟩ | ⟨hpc, hreg⟩⟩ := h.task t ht
    · rcases runSpawn_taken outcome now hpc htaken with hrun | ⟨hrun, hreg⟩
      · simp only [runTask, hrun]
        exact h.refused .badRequest
      · simp only [runTask, hrun]
        refine ⟨fun t ht => ?_, fun tokenHash hmem => ?_⟩
        · obtain rfl := Option.some.inj ht
          exact ⟨_, rfl, rfl, rfl, Or.inr ⟨rfl, hreg⟩⟩
        · rcases List.mem_append.mp hmem with hmem | hmem
          · exact h.answer tokenHash hmem
          · cases hmem
    · simp only [runTask, runSpawn_registered outcome now hpc hreg]
      exact h.refused .badRequest
  | fail t ht =>
    obtain ⟨sp, rfl, rfl, rfl, ⟨hpc, _⟩ | ⟨hpc, _⟩⟩ := h.task t ht
    · simp only [failTask, hpc, Status.spawnFails]
      exact h.refused .internal
    · simp only [failTask, hpc, Status.spawnFails]
      exact h.refused .internal
  | drop => exact ⟨fun t ht => (by cases ht), h.answer⟩

def asked (me : AgentRow) (session : String) (mode : FsMode) (initialPrompt : String)
    (coordinator : Bool) (childHash : Bytes) (now : UInt64) : Spawn :=
  ⟨me.name, me.groupName, session, mode, initialPrompt, coordinator, childHash, now, .sessionGet, 0⟩

lemma accept_spawn {now : UInt64} {tokenHash childHash : Bytes} {me : AgentRow} {mode : FsMode}
    {initialPrompt : String} {coordinator : Bool}
    (hme : store.agents.agentByToken tokenHash = some me) (hprime : me.role = .prime) :
    accept store tokenHash now (.spawn me.groupName session mode initialPrompt coordinator childHash) =
      .ok (some (.spawn (asked me session mode initialPrompt coordinator childHash now)), []) := by
  have hreq : store.requestSpawn tokenHash me.groupName session mode initialPrompt coordinator
      childHash now = .ok (asked me session mode initialPrompt coordinator childHash now) := by
    simp [Requests.State.requestSpawn, hme, hprime, asked]
  rw [accept, hreq]
  rfl

lemma refuses_asked {sp : Spawn} (opener : Opener) (hpc : sp.pc = .sessionGet)
    (h : Taken store sp.group sp.session) :
    Refuses store sp.group sp.session ⟨opener, some (.spawn sp), []⟩ := by
  refine ⟨fun t ht => ?_, fun _ hmem => by cases hmem⟩
  obtain rfl := Option.some.inj ht
  exact ⟨sp, rfl, rfl, rfl, Or.inl ⟨hpc, h⟩⟩

def Holds (I : Requests.State → Conn → Prop) (id : ℕ) (st : Clients.State) : Prop :=
  ∃ c, st.conns id = some c ∧ I st.store c

lemma Holds.run {I : Requests.State → Conn → Prop} {id : ℕ} {ls : List Label}
    (hmono : ∀ store store' c, I store c → Extends store store' → I store' c)
    (hturn : ∀ store c c', I store c → Turn O store c c' → I store c')
    (h : Holds I id st) (hrun : Run (Fires (step O)) st ls st') : Holds I id st' := by
  refine hrun.invariant (fun s l s' hs hstep => ?_) h
  obtain ⟨c, hid, hc⟩ := hs
  obtain ⟨c', hid', hcc'⟩ := turn_of_step hstep hid
  exact ⟨c', hid', hmono _ _ c' (hturn _ c c' hc hcc') (extends_step hstep)⟩

/-- The prime has killed or closed the session: a connection asked for it and was answered. -/
def Killed (O : Sorting) (group session : String) (st : Clients.State) : Prop :=
  ∃ before after st₁ id tokenHash me kind now c,
    Run (Fires (step O)) initial before st₁ ∧
    st₁.store.agents.agentByToken tokenHash = some me ∧ me.groupName = group ∧
    Run (Fires (step O)) st₁ (.request id tokenHash (killRequest session kind) now :: after) st ∧
    st.conns id = some c ∧ .ok ∈ c.written

lemma Killed.taken (h : Killed O group session st) : Taken st.store group session := by
  obtain ⟨_, after, st₁, id, tokenHash, me, kind, now, c, _, hme, hg, hrun, hid, hok⟩ := h
  cases hrun with
  | cons hs hrun =>
    obtain ⟨_, rfl⟩ := stepRequest_iff.mp hs
    have hstart : Holds (Kills · group session) id (st₁.setConn id
        (accepted (accept st₁.store tokenHash now (killRequest session kind)) (.token tokenHash))) :=
      ⟨_, setConn_self .., kills_accept now kind hme hg⟩
    obtain ⟨c', hid', hkills⟩ := hstart.run (fun _ _ _ h he => h.mono he) (fun _ _ _ h ht => h.turn ht)
      hrun
    obtain rfl := Option.some.inj (hid.symm.trans hid')
    exact hkills.answer hok

/-- What the state holds of an accepted spawn: its answer, a supervisor of the session that has not been
aborted, and the session's row, active. -/
structure Respawned (st : Clients.State) (id : ℕ) (group session : String) : Prop where
  accepted : ∃ c tokenHash, st.conns id = some c ∧ .spawned group session tokenHash ∈ c.written
  live : ∃ i s, st.supervisors i = some s ∧ s.group = group ∧ s.session = session ∧
    s.aborted = false
  active : ∃ sess, st.store.sessions.sessionGet group session = some sess ∧ sess.status = .active

lemma step_look {id : ℕ} {opener : Opener} {sp sp' : Spawn} {written : List Event}
    (hid : st.conns id = some ⟨opener, some (.spawn sp), written⟩)
    (hrun : st.store.runSpawn sp true 0 = (st.store, sp')) (hchild : spawnChild sp = .none) :
    step O st (.run id opener true 0) =
      some (st.setConn id ⟨opener, (spawnAnswer sp').1, written ++ (spawnAnswer sp').2⟩) := by
  refine stepRun_iff.mpr ⟨_, _, hid, rfl, rfl, ?_⟩
  simp only [runTask, hrun, hchild, State.runChild, put_quiet]
  rfl

structure RefusedAt (st : Clients.State) (id : ℕ) (opener : Opener) (st' : Clients.State) : Prop where
  conn : st'.conns id = some ⟨opener, none, [.refused .badRequest]⟩
  store : st'.store = st.store
  supervisors : st'.supervisors = st.supervisors

lemma refused_run (O : Sorting) (st : Clients.State) (id : ℕ) (opener : Opener) {sp : Spawn}
    (hpc : sp.pc = .sessionGet) (h : Taken st.store sp.group sp.session) :
    ∃ runs st', Run (Fires (step O)) (st.setConn id ⟨opener, some (.spawn sp), []⟩) runs st' ∧
      (∀ l ∈ runs, l = .run id opener true 0) ∧ RefusedAt st id opener st' := by
  have hid := setConn_self st id ⟨opener, some (.spawn sp), []⟩
  have hchild : spawnChild sp = .none := by simp only [spawnChild, hpc, SpawnPc.effect]
  rcases runSpawn_taken true 0 hpc h with hrun | ⟨hrun, hreg⟩
  · have hlook := step_look (O := O) hid hrun hchild
    exact ⟨_, _, .single hlook, fun l hl => List.mem_singleton.mp hl, setConn_self .., rfl, rfl⟩
  · have hlook := step_look (O := O) hid hrun hchild
    have hrun' := @runSpawn_registered st.store { sp with pc := .agentGet } true 0 rfl hreg
    refine ⟨_, _, .cons hlook (.single (step_look (setConn_self ..) hrun' rfl)), ?_,
      setConn_self .., rfl, rfl⟩
    exact List.forall_mem_cons.mpr ⟨rfl, fun l hl => List.mem_singleton.mp hl⟩

theorem killed_session_is_never_respawned (O : Sorting) {st : Clients.State} {id : ℕ}
    {tokenHash : Bytes} {me : AgentRow} (hkilled : Killed O me.groupName session st)
    (hfree : st.conns id = none) (hme : st.store.agents.agentByToken tokenHash = some me)
    (hprime : me.role = .prime) (mode : FsMode) (initialPrompt : String) (coordinator : Bool)
    (childHash : Bytes) (now : UInt64) :
    (∃ runs st', Run (Fires (step O)) st (.request id tokenHash
        (.spawn me.groupName session mode initialPrompt coordinator childHash) now :: runs) st' ∧
      (∀ l ∈ runs, l = .run id (.token tokenHash) true 0) ∧
      RefusedAt st id (.token tokenHash) st') ∧
    ∀ ls st', Run (Fires (step O)) st (.request id tokenHash
        (.spawn me.groupName session mode initialPrompt coordinator childHash) now :: ls) st' →
      ¬ Respawned st' id me.groupName session := by
  have htaken := hkilled.taken
  have hstep : step O st (.request id tokenHash
      (.spawn me.groupName session mode initialPrompt coordinator childHash) now) =
      some (st.setConn id ⟨.token tokenHash,
        some (.spawn (asked me session mode initialPrompt coordinator childHash now)), []⟩) := by
    refine stepRequest_iff.mpr ⟨hfree, ?_⟩
    rw [accept_spawn hme hprime]
    rfl
  have hfirst : (asked me session mode initialPrompt coordinator childHash now).pc = .sessionGet := rfl
  constructor
  · obtain ⟨runs, st', hrun, hruns, hrefused⟩ :=
      refused_run O st id (.token tokenHash) hfirst htaken
    exact ⟨runs, st', .cons hstep hrun, hruns, hrefused⟩
  · intro ls st' hrun hrespawned
    cases hrun with
    | cons hs hrun =>
      obtain rfl := Option.some.inj (hstep.symm.trans hs)
      have hstart : Holds (Refuses · me.groupName session) id (st.setConn id ⟨.token tokenHash,
          some (.spawn (asked me session mode initialPrompt coordinator childHash now)), []⟩) :=
        ⟨_, setConn_self .., refuses_asked _ hfirst htaken⟩
      obtain ⟨c, hid, hrefuses⟩ := hstart.run (fun _ _ _ h he => h.mono he)
        (fun _ _ _ h ht => h.turn ht) hrun
      obtain ⟨c', childHash', hid', hspawned⟩ := hrespawned.accepted
      obtain rfl := Option.some.inj (hid.symm.trans hid')
      exact hrefuses.answer childHash' hspawned

def devRun : List Label := newRun 0 [1] "team" 5 ++ spawnRun 1 [1] [2] "team" 6

def killRun (kind : KillRequest) : List Label :=
  .request 2 [1] (killRequest "dev" kind) 7 :: List.replicate 5 (.run 2 (.token [1]) true 7)

def againRun : List Label :=
  [.request 3 [1] (.spawn "team" "dev" .new "go" false [3]) 8, .run 3 (.token [1]) true 8]

def ranKill (st : Clients.State) : Bool :=
  (st.conns 1).any (.spawned "team" "dev" [2] ∈ ·.written) && (st.conns 2).any (.ok ∈ ·.written) &&
    (st.conns 3).isNone &&
    (st.store.agents.agentByToken [1]).any fun me => me.groupName = "team" ∧ me.role = .prime

lemma killed_dev (kind : KillRequest) : ∃ st, Killed .stable "team" "dev" st ∧ ranKill st = true ∧
    (execute (step .stable) st againRun).any fun st' =>
      (st'.conns 3).any fun c => c.written = [.refused .badRequest] := by
  have hsome : (execute (step .stable) initial devRun).any (fun st₁ =>
      (st₁.store.agents.agentByToken [1]).any (·.groupName = "team") &&
        (execute (step .stable) st₁ (killRun kind)).any fun st => ranKill st &&
          (execute (step .stable) st againRun).any fun st' =>
            (st'.conns 3).any fun c => c.written = [.refused .badRequest]) := by
    cases kind <;> decide +kernel
  obtain ⟨st₁, hfirst, hany⟩ := (Option.any_eq_true _ _).mp hsome
  obtain ⟨hme, hany⟩ := Bool.and_eq_true_iff.mp hany
  obtain ⟨me, hme, hg⟩ := (Option.any_eq_true _ _).mp hme
  obtain ⟨st, hkill, hany⟩ := (Option.any_eq_true _ _).mp hany
  obtain ⟨hran, hagain⟩ := Bool.and_eq_true_iff.mp hany
  have hran' := hran
  simp only [ranKill, Bool.and_eq_true] at hran'
  obtain ⟨c, hid, hok⟩ := (Option.any_eq_true _ _).mp hran'.1.1.2
  exact ⟨st, ⟨_, _, st₁, 2, [1], me, kind, 7, c, execute_run hfirst, hme, of_decide_eq_true hg,
    execute_run hkill, hid, of_decide_eq_true hok⟩, hran, hagain⟩

theorem killed_session_is_never_respawned_dev : ∃ st me, st.conns 3 = none ∧
    st.store.agents.agentByToken [1] = some me ∧ me.groupName = "team" ∧
    ((∃ runs st', Run (Fires (step .stable)) st (.request 3 [1]
        (.spawn me.groupName "dev" .new "go" false [3]) 8 :: runs) st' ∧
      (∀ l ∈ runs, l = .run 3 (.token [1]) true 0) ∧ RefusedAt st 3 (.token [1]) st') ∧
    ∀ ls st', Run (Fires (step .stable)) st (.request 3 [1]
        (.spawn me.groupName "dev" .new "go" false [3]) 8 :: ls) st' →
      ¬ Respawned st' 3 me.groupName "dev") := by
  obtain ⟨st, hkilled, hran, _⟩ := killed_dev .sessionClose
  simp only [ranKill, Bool.and_eq_true, Option.isNone_iff_eq_none] at hran
  obtain ⟨⟨_, hfree⟩, hme⟩ := hran
  obtain ⟨me, hme, hprime⟩ := (Option.any_eq_true _ _).mp hme
  obtain ⟨hg, hprime⟩ := of_decide_eq_true hprime
  rw [← hg] at hkilled
  exact ⟨st, me, hfree, hme, hg,
    killed_session_is_never_respawned .stable hkilled hfree hme hprime .new "go" false [3] 8⟩

theorem killed_dev_is_refused : ∃ st st', Killed .stable "team" "dev" st ∧
    (st.conns 1).any (.spawned "team" "dev" [2] ∈ ·.written) = true ∧
    Run (Fires (step .stable)) st againRun st' ∧
    (st'.conns 3).any (fun c => c.written = [.refused .badRequest]) = true ∧
    ¬ Respawned st' 3 "team" "dev" := by
  obtain ⟨st, hkilled, hran, hagain⟩ := killed_dev .agentKill
  obtain ⟨st', hrun, hrefused⟩ := (Option.any_eq_true _ _).mp hagain
  simp only [ranKill, Bool.and_eq_true] at hran
  refine ⟨st, st', hkilled, hran.1.1.1, execute_run hrun, hrefused, fun hrespawned => ?_⟩
  obtain ⟨c, hid, hwritten⟩ := (Option.any_eq_true _ _).mp hrefused
  obtain ⟨c', childHash, hid', hspawned⟩ := hrespawned.accepted
  obtain rfl := Option.some.inj (hid.symm.trans hid')
  rw [of_decide_eq_true hwritten] at hspawned
  cases List.mem_singleton.mp hspawned

end WalkieTalkie.Orchestration.Respawn
