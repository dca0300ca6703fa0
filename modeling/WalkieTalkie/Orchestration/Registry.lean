import WalkieTalkie.Orchestration.Routing

/-! The registry of agents and sessions under any interleaving of requests. Rows are only added, and
every session row stands between two agents of its group that are registered under different names. -/

namespace WalkieTalkie.Orchestration.Registry

open Proto Store Lib Lib.Runs Requests Routing

variable {st st' : State} {l : Label}

/-- Registered agents and sessions stay, with all but their status. -/
structure Extends (st st' : State) : Prop where
  agents : ∀ r ∈ st.agents.rows, ∃ r' ∈ st'.agents.rows, r'.withStatus .idle = r.withStatus .idle
  sessions : ∀ s ∈ st.sessions.rows, ∃ s' ∈ st'.sessions.rows,
    s'.withStatus .closed = s.withStatus .closed

def setStatus (t : SessionTable) (p : SessionRow → Bool) (status : SessionStatus) : SessionTable :=
  t.update p (SessionRow.withStatus status) (SessionRow.key_withStatus status)

def Registered (st : State) (group name : String) : Prop :=
  ∃ r ∈ st.agents.rows, r.groupName = group ∧ r.name = name

def IsPrime (st : State) (group name : String) : Prop :=
  ∃ r ∈ st.agents.rows, r.groupName = group ∧ r.name = name ∧ r.role = .prime

structure WellFormed (st : State) (s : SessionRow) : Prop where
  child : s.childAgent = s.name
  registered : Registered st s.groupName s.name
  prime : IsPrime st s.groupName s.primeAgent
  distinct : s.primeAgent ≠ s.childAgent

structure SpawnOk (st : State) (sp : Spawn) : Prop where
  prime : IsPrime st sp.group sp.prime
  creating : sp.pc = .sessionCreate → Registered st sp.group sp.session ∧ sp.prime ≠ sp.session

structure Invariant (st : State) : Prop where
  sessions : ∀ s ∈ st.sessions.rows, WellFormed st s
  spawns : ∀ sp ∈ st.spawns, SpawnOk st sp

lemma Extends.refl (st : State) : Extends st st :=
  ⟨fun r hr => ⟨r, hr, rfl⟩, fun s hs => ⟨s, hs, rfl⟩⟩

lemma Extends.trans {st'' : State} (h : Extends st st') (h' : Extends st' st'') :
    Extends st st'' := by
  refine ⟨fun r hr => ?_, fun s hs => ?_⟩
  · obtain ⟨r', hr', he'⟩ := h.agents r hr
    obtain ⟨r'', hr'', he''⟩ := h'.agents r' hr'
    exact ⟨r'', hr'', he''.trans he'⟩
  · obtain ⟨s', hs', he'⟩ := h.sessions s hs
    obtain ⟨s'', hs'', he''⟩ := h'.sessions s' hs'
    exact ⟨s'', hs'', he''.trans he'⟩

lemma Extends.of_eq (ha : st'.agents = st.agents) (hs : st'.sessions = st.sessions) :
    Extends st st' :=
  ⟨fun r hr => ⟨r, ha ▸ hr, rfl⟩, fun s hm => ⟨s, hs ▸ hm, rfl⟩⟩

lemma withStatus_eq {r r' : AgentRow} (h : r'.withStatus .idle = r.withStatus .idle) :
    r'.groupName = r.groupName ∧ r'.name = r.name ∧ r'.tokenHash = r.tokenHash ∧
      r'.role = r.role := by
  simpa [AgentRow.withStatus] using h

lemma session_withStatus_eq {s s' : SessionRow} (h : s'.withStatus .closed = s.withStatus .closed) :
    s'.groupName = s.groupName ∧ s'.name = s.name ∧ s'.primeAgent = s.primeAgent ∧
      s'.childAgent = s.childAgent := by
  simp only [SessionRow.withStatus, SessionRow.mk.injEq] at h
  exact ⟨h.1, h.2.1, h.2.2.1, h.2.2.2.1⟩

lemma Extends.registered (h : Extends st st') {group name : String}
    (hr : Registered st group name) : Registered st' group name := by
  obtain ⟨r, hr, hg, hn⟩ := hr
  obtain ⟨r', hr', he⟩ := h.agents r hr
  obtain ⟨hg', hn', _⟩ := withStatus_eq he
  exact ⟨r', hr', hg'.trans hg, hn'.trans hn⟩

lemma Extends.isPrime (h : Extends st st') {group name : String} (hr : IsPrime st group name) :
    IsPrime st' group name := by
  obtain ⟨r, hr, hg, hn, hrole⟩ := hr
  obtain ⟨r', hr', he⟩ := h.agents r hr
  obtain ⟨hg', hn', _, hrole'⟩ := withStatus_eq he
  exact ⟨r', hr', hg'.trans hg, hn'.trans hn, hrole'.trans hrole⟩

lemma IsPrime.registered {group name : String} (h : IsPrime st group name) :
    Registered st group name := by
  obtain ⟨r, hr, hg, hn, _⟩ := h
  exact ⟨r, hr, hg, hn⟩

lemma WellFormed.extends {s : SessionRow} (h : WellFormed st s) (he : Extends st st') :
    WellFormed st' s :=
  ⟨h.child, he.registered h.registered, he.isPrime h.prime, h.distinct⟩

lemma SpawnOk.extends {sp : Spawn} (h : SpawnOk st sp) (he : Extends st st') : SpawnOk st' sp :=
  ⟨he.isPrime h.prime, fun hpc => ⟨he.registered (h.creating hpc).1, (h.creating hpc).2⟩⟩

lemma WellFormed.sameRow {s s' : SessionRow} (h : WellFormed st s)
    (he : s'.withStatus .closed = s.withStatus .closed) : WellFormed st s' := by
  obtain ⟨hg, hn, hp, hc⟩ := session_withStatus_eq he
  refine ⟨hc.trans (h.child.trans hn.symm), ?_, ?_, ?_⟩
  · rw [hg, hn]
    exact h.registered
  · rw [hg, hp]
    exact h.prime
  · rw [hp, hc]
    exact h.distinct

lemma extends_updateStatus (st : State) (p : AgentRow → Bool) (status : AgentStatus) :
    Extends st { st with agents := st.agents.updateStatus p status } := by
  refine ⟨fun r hr => ⟨if p r then r.withStatus status else r, ?_, ?_⟩, fun s hs => ⟨s, hs, rfl⟩⟩
  · exact List.mem_map.mpr ⟨r, hr, rfl⟩
  · split <;> rfl

lemma extends_agentRegister (st : State) (row : AgentRow) :
    Extends st { st with agents := (st.agents.agentRegister row).1 } := by
  refine ⟨fun r hr => ⟨r, ?_, rfl⟩, fun s hs => ⟨s, hs, rfl⟩⟩
  cases h : (st.agents.agentRegister row).2 with
  | false =>
    rw [AgentTable.agentRegister_ignored h]
    exact hr
  | true =>
    rw [(AgentTable.agentRegister_ok h).1]
    exact List.mem_append_left _ hr

lemma extends_sessionCreate (st : State) (row : SessionRow) :
    Extends st { st with sessions := (st.sessions.sessionCreate row).1 } :=
  ⟨fun r hr => ⟨r, hr, rfl⟩, fun s hs => ⟨s, Table.mem_insertOrIgnore.mpr (Or.inl hs), rfl⟩⟩

lemma extends_setStatus (st : State) (p : SessionRow → Bool) (status : SessionStatus) :
    Extends st { st with sessions := setStatus st.sessions p status } := by
  refine ⟨fun r hr => ⟨r, hr, rfl⟩, fun s hs => ⟨if p s then s.withStatus status else s, ?_, ?_⟩⟩
  · exact List.mem_map.mpr ⟨s, hs, rfl⟩
  · split <;> rfl

lemma mem_setStatus {p : SessionRow → Bool} {status : SessionStatus} {s : SessionRow}
    (hs : s ∈ (setStatus st.sessions p status).rows) :
    ∃ o ∈ st.sessions.rows, s.withStatus .closed = o.withStatus .closed := by
  obtain ⟨o, ho, rfl⟩ := Table.mem_update.mp hs
  refine ⟨o, ho, ?_⟩
  split <;> rfl

/-- What one step of a spawn does to the registry. -/
inductive Ran (st : State) (sp : Spawn) : State → SpawnPc → Prop
  | kept {st' pc} (ha : st'.agents = st.agents) (hs : st'.sessions = st.sessions)
      (hpc : pc ≠ .sessionCreate) : Ran st sp st' pc
  | register (hpc : sp.pc = .agentRegister) :
      Ran st sp { st with agents := (st.agents.agentRegister sp.agentRow).1 }
        (sp.pc.next sp.request (st.agents.agentRegister sp.agentRow).2)
  | create {pc} (hcreating : sp.pc = .sessionCreate) (hpc : pc ≠ .sessionCreate) :
      Ran st sp { st with sessions := (st.sessions.sessionCreate sp.sessionRow).1 } pc
  | status {pc} (status : AgentStatus) (hpc : pc ≠ .sessionCreate) :
      Ran st sp { st with agents := st.agents.agentSetStatus sp.group sp.session status } pc
  | close {pc} (hpc : pc ≠ .sessionCreate) :
      Ran st sp { st with sessions := st.sessions.sessionClose sp.group sp.session } pc

lemma runOp_ran {sp : Spawn} {op : Op} (heff : sp.pc.effect = .store op) :
    Ran st sp (st.runOp sp op).1 (sp.pc.next sp.request (st.runOp sp op).2) := by
  have hnext : op ≠ .agentRegister → ∀ ok, sp.pc.next sp.request ok ≠ .sessionCreate := by
    intro hop ok hn
    rw [(next_sessionCreate hn).1] at heff
    cases heff
    exact hop rfl
  cases op with
  | sessionGet => exact .kept rfl rfl (hnext (by simp) _)
  | agentGet => exact .kept rfl rfl (hnext (by simp) _)
  | agentRegister =>
    apply Ran.register
    cases hpc : sp.pc <;> simp [hpc, SpawnPc.effect] at heff ⊢
  | sessionCreate => exact .create (effect_sessionCreate heff) (hnext (by simp) _)
  | agentSetStatus status => exact .status status (hnext (by simp) _)
  | sessionClose => exact .close (hnext (by simp) _)
  | bus => exact .kept rfl rfl (hnext (by simp) _)

lemma runSpawn_ran (st : State) (sp : Spawn) (outcome : Bool) (now : UInt64) :
    Ran st sp (st.runSpawn sp outcome now).1 (st.runSpawn sp outcome now).2.pc := by
  have hnext : ∀ {ok pc}, sp.pc = pc → pc ≠ .agentRegister →
      sp.pc.next sp.request ok ≠ .sessionCreate := by
    intro ok pc hpc hne hn
    exact hne (hpc.symm.trans (next_sessionCreate hn).1)
  rw [State.runSpawn]
  split
  · next hpc =>
    split
    · next st' seq henq =>
      obtain ⟨bus, row, _, rfl⟩ := busEnqueue_ok henq
      exact .kept rfl rfl (hnext hpc (by simp))
    · exact .kept rfl rfl (hnext hpc (by simp))
  · next hpc => exact .kept rfl rfl (hnext hpc (by simp))
  · split
    · next op heff => exact runOp_ran heff
    · next heff =>
      refine .kept rfl rfl fun hn => ?_
      rw [(next_sessionCreate hn).1] at heff
      exact heff .agentRegister rfl

lemma Ran.extends {sp : Spawn} {pc : SpawnPc} (h : Ran st sp st' pc) : Extends st st' := by
  cases h with
  | kept ha hs => exact .of_eq ha hs
  | register => exact extends_agentRegister _ _
  | create => exact extends_sessionCreate _ _
  | status status => exact extends_updateStatus _ _ _
  | close => exact extends_setStatus _ _ _

lemma Ran.sessions {sp : Spawn} {pc : SpawnPc} (h : Ran st sp st' pc) {s : SessionRow}
    (hs : s ∈ st'.sessions.rows) :
    (∃ o ∈ st.sessions.rows, s.withStatus .closed = o.withStatus .closed) ∨
      (sp.pc = .sessionCreate ∧ s = sp.sessionRow) := by
  cases h with
  | kept _ he =>
    rw [he] at hs
    exact Or.inl ⟨s, hs, rfl⟩
  | register => exact Or.inl ⟨s, hs, rfl⟩
  | create hpc =>
    rcases Table.mem_insertOrIgnore.mp hs with hs | ⟨rfl, _⟩
    · exact Or.inl ⟨s, hs, rfl⟩
    · exact Or.inr ⟨hpc, rfl⟩
  | status => exact Or.inl ⟨s, hs, rfl⟩
  | close => exact Or.inl (mem_setStatus hs)

lemma Ran.creating {sp : Spawn} {pc : SpawnPc} (h : Ran st sp st' pc) (hpc : pc = .sessionCreate) :
    sp.pc = .agentRegister ∧ (st.agents.agentRegister sp.agentRow).2 = true ∧
      st'.agents = (st.agents.agentRegister sp.agentRow).1 := by
  cases h with
  | register =>
    obtain ⟨hpc, hok⟩ := next_sessionCreate hpc
    exact ⟨hpc, hok, rfl⟩
  | kept _ _ hne => exact absurd hpc hne
  | create _ hne => exact absurd hpc hne
  | status _ hne => exact absurd hpc hne
  | close hne => exact absurd hpc hne

lemma runSpawn_fields (st : State) (sp : Spawn) (outcome : Bool) (now : UInt64) :
    (st.runSpawn sp outcome now).2.prime = sp.prime ∧
      (st.runSpawn sp outcome now).2.group = sp.group ∧
      (st.runSpawn sp outcome now).2.session = sp.session ∧
      (st.runSpawn sp outcome now).1.spawns = st.spawns := by
  rw [State.runSpawn]
  split
  · split
    · next henq =>
      obtain ⟨bus, row, _, rfl⟩ := busEnqueue_ok henq
      exact ⟨rfl, rfl, rfl, rfl⟩
    · exact ⟨rfl, rfl, rfl, rfl⟩
  · exact ⟨rfl, rfl, rfl, rfl⟩
  · split
    · next op _ => cases op <;> exact ⟨rfl, rfl, rfl, rfl⟩
    · exact ⟨rfl, rfl, rfl, rfl⟩

lemma Ran.spawnOk {sp sp' : Spawn} (h : Ran st sp st' sp'.pc) (hsp : SpawnOk st sp)
    (hp : sp'.prime = sp.prime) (hg : sp'.group = sp.group) (hs : sp'.session = sp.session) :
    SpawnOk st' sp' := by
  refine ⟨?_, fun hpc => ?_⟩
  · rw [hp, hg]
    exact h.extends.isPrime hsp.prime
  · obtain ⟨_, hok, ha⟩ := h.creating hpc
    obtain ⟨hrows, hnew⟩ := AgentTable.agentRegister_ok hok
    rw [hp, hg, hs]
    refine ⟨⟨sp.agentRow, ?_, rfl, rfl⟩, fun he => ?_⟩
    · rw [ha, hrows]
      simp
    · obtain ⟨r, hr, hrg, hrn, _⟩ := hsp.prime
      apply hnew r hr
      rw [AgentRow.key, hrg, hrn, he]
      rfl

lemma Invariant.extend (h : Invariant st) (he : Extends st st')
    (hs : ∀ s ∈ st'.sessions.rows,
      (∃ o ∈ st.sessions.rows, s.withStatus .closed = o.withStatus .closed) ∨ WellFormed st' s)
    (hsp : ∀ sp ∈ st'.spawns, sp ∈ st.spawns ∨ SpawnOk st' sp) : Invariant st' := by
  refine ⟨fun s hm => ?_, fun sp hm => ?_⟩
  · rcases hs s hm with ⟨o, ho, hsame⟩ | hw
    · exact ((h.sessions o ho).extends he).sameRow hsame
    · exact hw
  · rcases hsp sp hm with hm | hok
    · exact (h.spawns sp hm).extends he
    · exact hok

lemma Invariant.quiet (h : Invariant st) (ha : st'.agents = st.agents)
    (hs : st'.sessions = st.sessions) (hsp : ∀ sp ∈ st'.spawns, sp ∈ st.spawns) :
    Invariant st' :=
  h.extend (.of_eq ha hs) (fun s hm => Or.inl ⟨s, hs ▸ hm, rfl⟩) fun sp hm => Or.inl (hsp sp hm)

lemma spawnOk_request {tokenHash : Bytes} {group session : String} {mode : FsMode}
    {initialPrompt : String} {coordinator : Bool} {childHash : Bytes} {now : UInt64} {sp : Spawn}
    (hreq : st.requestSpawn tokenHash group session mode initialPrompt coordinator childHash now =
      .ok sp) : SpawnOk st sp := by
  obtain ⟨me, hme, hgroup, hrole, rfl⟩ := State.requestSpawn_cases hreq
  refine ⟨⟨me, AgentTable.agentByToken_some hme, ?_⟩, fun hpc => by cases hpc⟩
  exact ⟨hgroup, rfl, hrole⟩

lemma spawnStep_ran {k : ℕ} {outcome : Bool} {now : UInt64}
    (hstep : step st (.spawnStep k outcome now) = some st') :
    ∃ sp sp' st₁, st.spawns[k]? = some sp ∧ Ran st sp st₁ sp'.pc ∧ sp'.prime = sp.prime ∧
      sp'.group = sp.group ∧ sp'.session = sp.session ∧
      st' = { st₁ with spawns := st.spawns.set k sp' } := by
  obtain ⟨sp, hk, rfl⟩ := Option.map_eq_some_iff.mp hstep
  obtain ⟨hp, hg, hs, _⟩ := runSpawn_fields st sp outcome now
  exact ⟨sp, _, _, hk, runSpawn_ran st sp outcome now, hp, hg, hs, rfl⟩

lemma post_eq {k : ℕ} {now : UInt64} (hstep : step st (.post k now) = some st') :
    st'.agents = st.agents ∧ st'.sessions = st.sessions ∧ st'.spawns = st.spawns := by
  simp only [step] at hstep
  split at hstep
  · split at hstep
    · next henq =>
      obtain rfl := Option.some.inj hstep
      obtain ⟨bus, row, _, rfl⟩ := busEnqueue_ok henq
      exact ⟨rfl, rfl, rfl⟩
    · cases hstep
  · cases hstep

lemma invariant_step (h : Invariant st) (hstep : step st l = some st') :
    Invariant st' ∧ Extends st st' := by
  have hquiet : st'.agents = st.agents ∧ st'.sessions = st.sessions ∧ st'.spawns = st.spawns →
      Invariant st' ∧ Extends st st' := by
    rintro ⟨ha, hs, hsp⟩
    exact ⟨h.quiet ha hs fun sp hm => hsp ▸ hm, .of_eq ha hs⟩
  cases l with
  | groupNew name tokenHash now =>
    obtain rfl := Option.some.inj hstep
    apply hquiet
    split <;> exact ⟨rfl, rfl, rfl⟩
  | registerPrime k =>
    obtain ⟨p, _, rfl⟩ := Option.map_eq_some_iff.mp hstep
    have he := extends_agentRegister st (primeRow p.1 p.2)
    have he' : Extends st { st with
        agents := (st.agents.agentRegister (primeRow p.1 p.2)).1
        primes := st.primes.eraseIdx k } := ⟨he.agents, he.sessions⟩
    exact ⟨h.extend he' (fun s hs => Or.inl ⟨s, hs, rfl⟩) fun sp hsp => Or.inl hsp, he'⟩
  | spawn tokenHash group session mode initialPrompt coordinator childHash now =>
    simp only [step] at hstep
    split at hstep
    · next sp hreq =>
      obtain rfl := Option.some.inj hstep
      have he : Extends st { st with spawns := st.spawns ++ [sp] } := .of_eq rfl rfl
      refine ⟨h.extend he (fun s hs => Or.inl ⟨s, hs, rfl⟩) ?_, he⟩
      exact forall_mem_snoc (fun sp hm => Or.inl hm) (Or.inr ((spawnOk_request hreq).extends he))
    · obtain rfl := Option.some.inj hstep
      exact hquiet ⟨rfl, rfl, rfl⟩
  | spawnStep k outcome now =>
    obtain ⟨sp, sp', st₁, hk, hran, hp, hg, hs, rfl⟩ := spawnStep_ran hstep
    have hok := h.spawns sp (List.mem_of_getElem? hk)
    have he := hran.extends
    have he' : Extends st { st₁ with spawns := st.spawns.set k sp' } := ⟨he.agents, he.sessions⟩
    have hok' := hran.spawnOk hok hp hg hs
    refine ⟨h.extend he' (fun s hm => ?_) ?_, he'⟩
    · rcases hran.sessions hm with hold | ⟨hpc, rfl⟩
      · exact Or.inl hold
      · obtain ⟨hreg, hne⟩ := hok.creating hpc
        exact Or.inr ⟨rfl, he'.registered hreg, he'.isPrime hok.prime, hne⟩
    · exact forall_mem_set (fun sp hm => Or.inl hm) (Or.inr ⟨hok'.prime, hok'.creating⟩)
  | spawnEnd k =>
    obtain rfl := Option.some.inj hstep
    exact ⟨h.quiet rfl rfl fun sp hm => List.mem_of_mem_eraseIdx hm, .of_eq rfl rfl⟩
  | agentSend tokenHash session kind payload =>
    simp only [step] at hstep
    split at hstep <;> obtain rfl := Option.some.inj hstep <;> exact hquiet ⟨rfl, rfl, rfl⟩
  | sendMessage group session kind text =>
    simp only [step] at hstep
    split at hstep <;> obtain rfl := Option.some.inj hstep <;> exact hquiet ⟨rfl, rfl, rfl⟩
  | broadcastMessage group kind text =>
    obtain rfl := Option.some.inj hstep
    exact hquiet ⟨rfl, rfl, rfl⟩
  | report group session kind payload =>
    simp only [step] at hstep
    split at hstep
    · split at hstep
      · obtain rfl := Option.some.inj hstep
        exact hquiet ⟨rfl, rfl, rfl⟩
      · cases hstep
    · cases hstep
  | post k now => exact hquiet (post_eq hstep)
  | drop k =>
    obtain rfl := Option.some.inj hstep
    exact hquiet ⟨rfl, rfl, rfl⟩
  | markConsumed group session seq now =>
    obtain rfl := Option.some.inj hstep
    exact hquiet ⟨rfl, rfl, rfl⟩
  | setStatus group agent status =>
    obtain rfl := Option.some.inj hstep
    have he := extends_updateStatus st (fun r => r.key = (group, agent)) status
    exact ⟨h.extend he (fun s hs => Or.inl ⟨s, hs, rfl⟩) fun sp hsp => Or.inl hsp, he⟩
  | sessionClose group session =>
    obtain rfl := Option.some.inj hstep
    have he := extends_setStatus st (fun r => r.key = (group, session)) .closed
    exact ⟨h.extend he (fun s hs => Or.inl (mem_setStatus hs)) fun sp hsp => Or.inl hsp, he⟩
  | reconcile =>
    obtain rfl := Option.some.inj hstep
    have he := (extends_updateStatus st _ _).trans (extends_setStatus
      { st with agents := (reconcileStaleAgents st.agents st.sessions).1 }
      (fun r => r.status = .active) .closed)
    exact ⟨h.extend he (fun s hs => Or.inl (mem_setStatus hs)) fun sp hsp => Or.inl hsp, he⟩

lemma invariant_run {ls : List Label} (hrun : Run (Fires step) initial ls st) : Invariant st := by
  refine hrun.invariant (fun _ _ _ h hs => (invariant_step h hs).1) ⟨fun s hs => ?_, fun sp hs => ?_⟩
  · cases hs
  · cases hs

/-- `AgentSend` with its reads in one state and its write in a later one. With `fault` the
transaction of the write fails. -/
def serveAgentSend (read write : State) (tokenHash : Bytes) (session : String)
    (kind : AgentMsgKind) (payload : Bytes) (now : UInt64) (fault : Option String) :
    State × Except IpcError Unit :=
  match read.agentSend tokenHash session kind payload with
  | .error e => (write, .error e)
  | .ok out =>
    match fault with
    | some e => (write, .error ⟨.internal, e⟩)
    | none =>
      match write.busEnqueue out now with
      | .error e => (write, .error ⟨.internal, e⟩)
      | .ok (st', _) => (st', .ok ())

/-- A row written for a sender: in its group and the named session, to the other end of it. -/
structure Routes (st : State) (tokenHash : Bytes) (session : String) (kind : AgentMsgKind)
    (payload : Bytes) (row : AgentMsgRow) : Prop where
  ends : ∃ me sess, st.agents.agentByToken tokenHash = some me ∧
    st.sessions.sessionGet me.groupName session = some sess ∧ row.groupName = me.groupName ∧
    row.fromAgent = me.name ∧
    (me.name = sess.primeAgent ∧ row.toAgent = sess.childAgent ∨
      me.name = sess.childAgent ∧ row.toAgent = sess.primeAgent)
  session : row.sessionName = session
  kind : row.kind = kind
  payload : row.payload = payload
  distinct : row.fromAgent ≠ row.toAgent

lemma agentSend_ok (h : Invariant st) {tokenHash : Bytes} {session : String} {kind : AgentMsgKind}
    {payload : Bytes} {out : Outgoing} (hsend : st.agentSend tokenHash session kind payload = .ok out)
    (seq : ℕ) (now : UInt64) : Routes st tokenHash session kind payload
      ⟨out.group, out.session, seq, out.fromAgent, out.toAgent, out.kind, out.payload, now, none⟩ := by
  obtain ⟨me, sess, hme, hsess, hsides⟩ := State.agentSend_cases hsend
  have hdistinct := (h.sessions sess (Table.find_eq_some.mp hsess).1).distinct
  rcases hsides with ⟨hprime, rfl⟩ | ⟨_, hchild, rfl⟩
  · refine ⟨⟨me, sess, hme, hsess, rfl, rfl, Or.inl ⟨hprime, rfl⟩⟩, rfl, rfl, rfl, ?_⟩
    exact hprime ▸ hdistinct
  · refine ⟨⟨me, sess, hme, hsess, rfl, rfl, Or.inr ⟨hchild, rfl⟩⟩, rfl, rfl, rfl, ?_⟩
    exact hchild ▸ hdistinct.symm

theorem registry_well_formed_and_routing_unambiguous {ls : List Label}
    (hrun : Run (Fires step) initial ls st) :
    (∀ s ∈ st.sessions.rows, s.childAgent = s.name ∧
      (∃ a, st.agents.agentGet s.groupName s.name = some a) ∧
      (∃ p, st.agents.agentGet s.groupName s.primeAgent = some p ∧ p.role = .prime) ∧
      s.primeAgent ≠ s.childAgent) ∧
    ∀ ls' st', Run (Fires step) st ls' st' → ∀ tokenHash session kind payload now fault,
      (∃ e, serveAgentSend st st' tokenHash session kind payload now fault = (st', .error e)) ∨
      ∃ bus row, serveAgentSend st st' tokenHash session kind payload now fault =
          ({ st' with bus, log := st'.log ++ [row] }, .ok ()) ∧
        Routes st tokenHash session kind payload row ∧
        ∀ r, r ∈ bus.rows ↔ (r ∈ st'.bus.rows ∨ r = row) ∧
          ¬ (sameSession r row ∧ r.seq + maxMsgsPerSession ≤ row.seq) := by
  have h := invariant_run hrun
  refine ⟨fun s hs => ?_, fun ls' st' _ tokenHash session kind payload now fault => ?_⟩
  · have hw := h.sessions s hs
    obtain ⟨a, ha, hag, han⟩ := hw.registered
    obtain ⟨p, hp, hpg, hpn, hrole⟩ := hw.prime
    refine ⟨hw.child, ⟨a, Table.find_eq_some.mpr ⟨ha, ?_⟩⟩, ⟨p, Table.find_eq_some.mpr ⟨hp, ?_⟩, hrole⟩,
      hw.distinct⟩
    · rw [AgentRow.key, hag, han]
    · rw [AgentRow.key, hpg, hpn]
  · cases hsend : st.agentSend tokenHash session kind payload with
    | error e => exact Or.inl ⟨e, by rw [serveAgentSend, hsend]⟩
    | ok out =>
      cases fault with
      | some e => exact Or.inl ⟨_, by rw [serveAgentSend, hsend]⟩
      | none =>
        obtain ⟨bus, row, henq⟩ := BusTable.agentMsgEnqueue_succeeds st'.bus out.group out.session
          out.fromAgent out.toAgent out.kind out.payload now
        obtain ⟨hrow, hmem⟩ := BusTable.agentMsgEnqueue_ok henq
        refine Or.inr ⟨bus, row, ?_, hrow ▸ agentSend_ok h hsend _ now, fun r => ?_⟩
        · simp only [serveAgentSend, hsend, State.busEnqueue, henq]
        · have hsame : sameSession r row ↔ r.inSession out.group out.session := by
            rw [AgentMsgRow.inSession_iff, sameSession, hrow]
          rw [hmem r, hsame]

theorem registry_well_formed_and_routing_unambiguous_worker : ∃ st s,
    Run (Fires step) initial teamLabels st ∧ s ∈ st.sessions.rows ∧ s.primeAgent ≠ s.childAgent ∧
    ∃ bus row, serveAgentSend st st [3] "w" .user [104, 105] 5 none =
        ({ st with bus, log := st.log ++ [row] }, .ok ()) ∧
      Routes st [3] "w" .user [104, 105] row := by
  have hsome : (execute step initial teamLabels).any (fun st => st.sessions.rows.length = 2 &&
      (serveAgentSend st st [3] "w" .user [104, 105] 5 none).2.toBool) := by
    decide +kernel
  obtain ⟨st, hst, hany⟩ := (Option.any_eq_true _ _).mp hsome
  obtain ⟨hlen, hok⟩ := Bool.and_eq_true_iff.mp hany
  have hrun := execute_run hst
  obtain ⟨hsessions, hsend⟩ := registry_well_formed_and_routing_unambiguous hrun
  obtain ⟨s, hs⟩ := List.exists_mem_of_length_pos (l := st.sessions.rows)
    (by rw [decide_eq_true_eq.mp hlen]; decide)
  refine ⟨st, s, hrun, hs, (hsessions s hs).2.2.2, ?_⟩
  rcases hsend [] st .nil [3] "w" .user [104, 105] 5 none with ⟨e, he⟩ | ⟨bus, row, he, hroutes, _⟩
  · rw [he] at hok
    cases hok
  · exact ⟨bus, row, he, hroutes⟩

end WalkieTalkie.Orchestration.Registry
