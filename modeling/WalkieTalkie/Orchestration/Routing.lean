import WalkieTalkie.Orchestration.Requests

/-! Where turn inputs go. The pending inputs of a child are selected by its name alone, so they are
all of its own session only as long as nobody sends it an input in a session that it is the prime
of. -/

namespace WalkieTalkie.Orchestration.Routing

open Proto Store Lib Lib.Runs Requests

variable {st st' : State} {l : Label}

/-- The sender is the child of a session whose prime is not the group's own prime but a spawned
agent. -/
def upward (st : State) (tokenHash : Bytes) (session : String) : Bool :=
  match st.agents.agentByToken tokenHash with
  | none => false
  | some me =>
    match st.sessions.sessionGet me.groupName session with
    | none => false
    | some sess =>
      me.name ≠ sess.primeAgent && me.name = sess.childAgent && sess.primeAgent ≠ "prime"

def sendsInputUpward (st : State) : Label → Bool
  | .agentSend tokenHash session kind _ => kind = .turnInput && upward st tokenHash session
  | _ => false

abbrev NoInputUpward (st : State) (l : Label) : Prop := sendsInputUpward st l = false

def Routed (out : Outgoing) : Prop :=
  out.kind = .turnInput → out.session = out.toAgent ∨ out.toAgent = "prime"

def RowRouted (row : AgentMsgRow) : Prop :=
  row.kind = .turnInput → row.sessionName = row.toAgent ∨ row.toAgent = "prime"

def keys (t : AgentTable) : List (String × String) := t.rows.map AgentRow.key

structure SpawnOk (agents : AgentTable) (sp : Spawn) : Prop where
  primed : (sp.group, "prime") ∈ keys agents
  creating : sp.pc = .sessionCreate → sp.session ≠ "prime"

def Named (s : SessionRow) : Prop :=
  s.childAgent = s.name ∧ s.name ≠ "prime"

structure Invariant (st : State) : Prop where
  ledger : Ledger st.bus st.log
  primed : ∀ k ∈ keys st.agents, (k.1, "prime") ∈ keys st.agents
  spawns : ∀ sp ∈ st.spawns, SpawnOk st.agents sp
  sessions : ∀ s ∈ st.sessions.rows, Named s
  outgoing : ∀ out ∈ st.outgoing, Routed out
  logged : ∀ row ∈ st.log, RowRouted row

lemma keys_updateStatus (t : AgentTable) (p : AgentRow → Bool) (status : AgentStatus) :
    keys (t.updateStatus p status) = keys t :=
  Table.map_key (by intro r; split <;> rfl) t.rows

lemma keys_agentRegister (t : AgentTable) (row : AgentRow) :
    keys (t.agentRegister row).1 = keys t ∨
      (keys (t.agentRegister row).1 = keys t ++ [row.key] ∧ row.key ∉ keys t) := by
  cases h : (t.agentRegister row).2 with
  | false => exact Or.inl (by rw [AgentTable.agentRegister_ignored h])
  | true =>
    obtain ⟨hrows, hnew⟩ := AgentTable.agentRegister_ok h
    refine Or.inr ⟨by simp [keys, hrows], fun hk => ?_⟩
    obtain ⟨r, hr, hkey⟩ := List.mem_map.mp hk
    exact hnew r hr hkey

lemma SpawnOk.mono {agents agents' : AgentTable} {sp : Spawn} (hk : keys agents ⊆ keys agents')
    (h : SpawnOk agents sp) : SpawnOk agents' sp :=
  ⟨hk h.primed, h.creating⟩

lemma Invariant.withAgents (h : Invariant st) {agents : AgentTable}
    (hk : keys st.agents ⊆ keys agents) (hp : ∀ k ∈ keys agents, (k.1, "prime") ∈ keys agents) :
    Invariant { st with agents } :=
  { h with
    primed := hp
    spawns := fun sp hs => (h.spawns sp hs).mono hk }

lemma Invariant.updateStatus (h : Invariant st) (p : AgentRow → Bool) (status : AgentStatus) :
    Invariant { st with agents := st.agents.updateStatus p status } := by
  have hkeys := keys_updateStatus st.agents p status
  refine h.withAgents ?_ ?_
  · rw [hkeys]
    exact List.Subset.refl _
  · rw [hkeys]
    exact h.primed

lemma Invariant.agentRegister (h : Invariant st) {row : AgentRow}
    (hrow : row.name = "prime" ∨ (row.groupName, "prime") ∈ keys st.agents) :
    Invariant { st with agents := (st.agents.agentRegister row).1 } := by
  rcases keys_agentRegister st.agents row with hk | ⟨hk, _⟩
  · refine h.withAgents ?_ ?_
    · rw [hk]
      exact List.Subset.refl _
    · rw [hk]
      exact h.primed
  · refine h.withAgents ?_ ?_
    · rw [hk]
      exact List.subset_append_left _ _
    · rw [hk]
      refine forall_mem_snoc (fun k hm => List.mem_append_left _ (h.primed k hm)) ?_
      rcases hrow with hname | hmem
      · exact List.mem_append_right _ (by simp [AgentRow.key, hname])
      · exact List.mem_append_left _ hmem

lemma Invariant.withSessions (h : Invariant st) {sessions : SessionTable}
    (hs : ∀ s ∈ sessions.rows, Named s) : Invariant { st with sessions } :=
  { h with sessions := hs }

lemma named_update {sessions : SessionTable} {p : SessionRow → Bool} {status : SessionStatus}
    (h : ∀ s ∈ sessions.rows, Named s) : ∀ s ∈ (sessions.update p (SessionRow.withStatus status)
      (SessionRow.key_withStatus status)).rows, Named s := by
  intro s hs
  obtain ⟨o, ho, rfl⟩ := Table.mem_update.mp hs
  split
  · exact h o ho
  · exact h o ho

lemma Invariant.sessionCreate (h : Invariant st) {row : SessionRow} (hrow : Named row) :
    Invariant { st with sessions := (st.sessions.sessionCreate row).1 } := by
  refine h.withSessions fun s hs => ?_
  rcases Table.mem_insertOrIgnore.mp hs with hs | ⟨rfl, _⟩
  · exact h.sessions s hs
  · exact hrow

lemma Invariant.withOutgoing (h : Invariant st) {outgoing : List Outgoing}
    (ho : ∀ out ∈ outgoing, Routed out) : Invariant { st with outgoing } :=
  { h with outgoing := ho }

lemma Invariant.mark (h : Invariant st) (group session : String) (seq : ℕ) (now : UInt64) :
    Invariant { st with bus := st.bus.agentMsgMarkConsumed group session seq now } :=
  { h with ledger := h.ledger.mark group session seq now }

lemma busEnqueue_ok {out : Outgoing} {now : UInt64} {seq : ℕ}
    (h : st.busEnqueue out now = .ok (st', seq)) : ∃ bus row,
      st.bus.agentMsgEnqueue out.group out.session out.fromAgent out.toAgent out.kind out.payload
        now = .ok (bus, row) ∧ st' = { st with bus, log := st.log ++ [row] } := by
  rw [State.busEnqueue] at h
  split at h
  · next bus row henq =>
    obtain ⟨rfl, _⟩ := Prod.mk.inj (Except.ok.inj h)
    exact ⟨bus, row, henq, rfl⟩
  · cases h

lemma Invariant.busEnqueue (h : Invariant st) {out : Outgoing} {now : UInt64} {seq : ℕ}
    (hout : Routed out) (henq : st.busEnqueue out now = .ok (st', seq)) :
    Invariant st' := by
  obtain ⟨bus, row, hbus, rfl⟩ := busEnqueue_ok henq
  have hrow := (BusTable.agentMsgEnqueue_ok hbus).1
  refine { h with
    ledger := h.ledger.enqueue hbus
    logged := forall_mem_snoc h.logged fun hkind => ?_ }
  rw [hrow] at hkind ⊢
  exact hout hkind

lemma next_sessionCreate {req : SpawnRequest} {pc : SpawnPc} {ok : Bool}
    (h : pc.next req ok = .sessionCreate) : pc = .agentRegister ∧ ok = true := by
  cases pc <;> cases ok <;> simp only [SpawnPc.next, SpawnPc.teardown] at h <;>
    first
      | exact ⟨rfl, rfl⟩
      | cases h
      | (split at h <;> cases h)

lemma runOp_invariant (h : Invariant st) {sp : Spawn} (hsp : SpawnOk st.agents sp) {op : Op}
    (hcreate : op = .sessionCreate → sp.session ≠ "prime") :
    Invariant (st.runOp sp op).1 ∧ (st.runOp sp op).1.spawns = st.spawns ∧
      keys st.agents ⊆ keys (st.runOp sp op).1.agents := by
  have hsub : keys st.agents ⊆ keys st.agents := List.Subset.refl _
  cases op with
  | sessionGet => exact ⟨h, rfl, hsub⟩
  | agentGet => exact ⟨h, rfl, hsub⟩
  | agentRegister =>
    refine ⟨h.agentRegister (Or.inr hsp.primed), rfl, ?_⟩
    rcases keys_agentRegister st.agents sp.agentRow with hk | ⟨hk, _⟩
    · exact hk ▸ hsub
    · exact hk ▸ List.subset_append_left _ _
  | sessionCreate => exact ⟨h.sessionCreate ⟨rfl, hcreate rfl⟩, rfl, hsub⟩
  | agentSetStatus status =>
    exact ⟨h.updateStatus _ status, rfl, (keys_updateStatus st.agents _ status) ▸ hsub⟩
  | sessionClose => exact ⟨h.withSessions (named_update h.sessions), rfl, hsub⟩
  | bus => exact ⟨h, rfl, hsub⟩

lemma registered_not_prime {sp : Spawn} (hsp : SpawnOk st.agents sp)
    (hok : (st.runOp sp .agentRegister).2 = true) : sp.session ≠ "prime" := by
  intro hname
  have hnew := (AgentTable.agentRegister_ok hok).2
  obtain ⟨r, hr, hkey⟩ := List.mem_map.mp hsp.primed
  refine hnew r hr (hkey.trans ?_)
  rw [AgentRow.key, Spawn.agentRow, hname]

lemma effect_sessionCreate {pc : SpawnPc} (h : pc.effect = .store .sessionCreate) :
    pc = .sessionCreate := by
  cases pc <;> first | rfl | cases h

lemma runSpawn_invariant (h : Invariant st) {sp : Spawn} (hsp : SpawnOk st.agents sp)
    (outcome : Bool) (now : UInt64) :
    Invariant (st.runSpawn sp outcome now).1 ∧
      (st.runSpawn sp outcome now).1.spawns = st.spawns ∧
      SpawnOk (st.runSpawn sp outcome now).1.agents (st.runSpawn sp outcome now).2 := by
  rw [State.runSpawn]
  split
  · next hpc =>
    have hnot : ∀ ok, sp.pc.next sp.request ok = .sessionCreate → sp.session ≠ "prime" := by
      intro ok hn
      rw [(next_sessionCreate hn).1] at hpc
      cases hpc
    split
    · next st' seq henq =>
      obtain ⟨bus, row, _, rfl⟩ := busEnqueue_ok henq
      exact ⟨h.busEnqueue (fun _ => Or.inl rfl) henq, rfl, hsp.primed, hnot true⟩
    · exact ⟨h, rfl, hsp.primed, hnot false⟩
  · next hpc =>
    refine ⟨h.mark _ _ _ _, rfl, hsp.primed, fun hn => ?_⟩
    rw [(next_sessionCreate hn).1] at hpc
    cases hpc
  · split
    · next op heff =>
      have hcreate : op = .sessionCreate → sp.session ≠ "prime" := by
        rintro rfl
        exact hsp.creating (effect_sessionCreate heff)
      obtain ⟨hinv, hspawns, hkeys⟩ := runOp_invariant h hsp hcreate
      refine ⟨hinv, hspawns, hkeys hsp.primed, fun hn => ?_⟩
      obtain ⟨hpc, hok⟩ := next_sessionCreate hn
      rw [hpc] at heff
      obtain rfl : Op.agentRegister = op := by
        cases heff
        rfl
      have hname := registered_not_prime hsp hok
      exact hname
    · next heff =>
      refine ⟨h, rfl, hsp.primed, fun hn => ?_⟩
      rw [(next_sessionCreate hn).1] at heff
      exact absurd rfl (heff .agentRegister)

lemma routed_agentSend (h : Invariant st) {tokenHash : Bytes} {session : String}
    {kind : AgentMsgKind} {payload : Bytes} {out : Outgoing}
    (hguard : NoInputUpward st (.agentSend tokenHash session kind payload))
    (hsend : st.agentSend tokenHash session kind payload = .ok out) : Routed out := by
  obtain ⟨me, sess, hme, hsess, hsides⟩ := State.agentSend_cases hsend
  obtain ⟨hmem, hkey⟩ := Table.find_eq_some.mp hsess
  have hname : sess.name = session := (Prod.mk.inj hkey).2
  have hchild := (h.sessions sess hmem).1
  simp only [NoInputUpward, sendsInputUpward, upward] at hguard
  rcases hsides with ⟨_, rfl⟩ | ⟨hprime, hchild', rfl⟩
  · exact fun _ => Or.inl (hname.symm.trans hchild.symm)
  · refine fun hkind => Or.inr ?_
    have hkind : kind = .turnInput := hkind
    simpa [hme, hsess, hkind, hprime, ← hchild'] using hguard

lemma routed_sendMessage (h : Invariant st) {group session text : String} {kind : Option String}
    {out : Outgoing} (hsend : st.sendMessage group session kind text = .ok out) : Routed out := by
  rw [State.sendMessage] at hsend
  split at hsend
  · cases hsend
  · next sess hsess =>
    obtain ⟨hmem, hkey⟩ := Table.find_eq_some.mp hsess
    obtain rfl := Except.ok.inj hsend
    exact fun _ => Or.inl ((Prod.mk.inj hkey).2.symm.trans (h.sessions sess hmem).1.symm)

lemma routed_broadcast (h : Invariant st) {group text : String} {kind : Option String} :
    ∀ out ∈ st.broadcastMessage group kind text, Routed out := by
  intro out hout
  obtain ⟨s, hs, rfl⟩ := List.mem_map.mp hout
  have hmem := (SessionTable.mem_sessionList.mp (List.mem_filter.mp hs).1).1
  exact fun _ => Or.inl (h.sessions s hmem).1.symm

lemma invariant_initial : Invariant initial where
  ledger := ledger_initial
  primed _ h := by cases h
  spawns _ h := by cases h
  sessions _ h := by cases h
  outgoing _ h := by cases h
  logged _ h := by cases h

lemma spawnOk_request (h : Invariant st) {tokenHash : Bytes} {group session : String}
    {mode : FsMode} {initialPrompt : String} {coordinator : Bool} {childHash : Bytes} {now : UInt64}
    {sp : Spawn} (hreq : st.requestSpawn tokenHash group session mode initialPrompt coordinator
      childHash now = .ok sp) : SpawnOk st.agents sp := by
  obtain ⟨me, hme, hgroup, _, rfl⟩ := State.requestSpawn_cases hreq
  have hkey : me.key ∈ keys st.agents := List.mem_map_of_mem (AgentTable.agentByToken_some hme)
  refine ⟨?_, fun hpc => by cases hpc⟩
  rw [← hgroup]
  exact h.primed _ hkey

lemma invariant_spawn {tokenHash childHash : Bytes} {group session initialPrompt : String}
    {mode : FsMode} {coordinator : Bool} {now : UInt64} (h : Invariant st)
    (hstep : step st (.spawn tokenHash group session mode initialPrompt coordinator childHash now) =
      some st') : Invariant st' := by
  simp only [step] at hstep
  split at hstep
  · next sp hreq =>
    obtain rfl := Option.some.inj hstep
    exact { h with spawns := forall_mem_snoc h.spawns (spawnOk_request h hreq) }
  · obtain rfl := Option.some.inj hstep
    exact h

lemma invariant_spawnStep {k : ℕ} {outcome : Bool} {now : UInt64} (h : Invariant st)
    (hstep : step st (.spawnStep k outcome now) = some st') : Invariant st' := by
  obtain ⟨sp, hk, rfl⟩ := Option.map_eq_some_iff.mp hstep
  have hsp := h.spawns sp (List.mem_of_getElem? hk)
  obtain ⟨hinv, hspawns, hok⟩ := runSpawn_invariant h hsp outcome now
  exact { hinv with spawns := forall_mem_set (hspawns ▸ hinv.spawns) hok }

lemma invariant_agentSend {tokenHash payload : Bytes} {session : String} {kind : AgentMsgKind}
    (h : Invariant st) (hguard : NoInputUpward st (.agentSend tokenHash session kind payload))
    (hstep : step st (.agentSend tokenHash session kind payload) = some st') : Invariant st' := by
  simp only [step] at hstep
  split at hstep
  · next out hsend =>
    obtain rfl := Option.some.inj hstep
    exact h.withOutgoing (forall_mem_snoc h.outgoing (routed_agentSend h hguard hsend))
  · obtain rfl := Option.some.inj hstep
    exact h

lemma invariant_sendMessage {group session text : String} {kind : Option String} (h : Invariant st)
    (hstep : step st (.sendMessage group session kind text) = some st') : Invariant st' := by
  simp only [step] at hstep
  split at hstep
  · next out hsend =>
    obtain rfl := Option.some.inj hstep
    exact h.withOutgoing (forall_mem_snoc h.outgoing (routed_sendMessage h hsend))
  · obtain rfl := Option.some.inj hstep
    exact h

lemma invariant_report {group session : String} {kind : AgentMsgKind} {payload : Bytes}
    (h : Invariant st) (hstep : step st (.report group session kind payload) = some st') :
    Invariant st' := by
  simp only [step] at hstep
  split at hstep
  · split at hstep
    · next hkind =>
      obtain rfl := Option.some.inj hstep
      refine h.withOutgoing (forall_mem_snoc h.outgoing fun hk => ?_)
      have hk : kind = .turnInput := hk
      rw [hk] at hkind
      cases hkind
    · cases hstep
  · cases hstep

lemma invariant_post {k : ℕ} {now : UInt64} (h : Invariant st)
    (hstep : step st (.post k now) = some st') : Invariant st' := by
  simp only [step] at hstep
  split at hstep
  · next out hk =>
    split at hstep
    · next st₁ seq henq =>
      obtain rfl := Option.some.inj hstep
      have hout := h.outgoing out (List.mem_of_getElem? hk)
      exact (h.busEnqueue hout henq).withOutgoing (forall_mem_eraseIdx h.outgoing k)
    · cases hstep
  · cases hstep

lemma invariant_step (h : Invariant st) (hguard : NoInputUpward st l)
    (hstep : step st l = some st') : Invariant st' := by
  cases l with
  | groupNew name tokenHash now =>
    obtain rfl := Option.some.inj hstep
    split
    · exact { h with }
    · exact h
  | registerPrime k =>
    obtain ⟨p, _, rfl⟩ := Option.map_eq_some_iff.mp hstep
    exact { h.agentRegister (Or.inl rfl) with }
  | spawn => exact invariant_spawn h hstep
  | spawnStep => exact invariant_spawnStep h hstep
  | spawnEnd k =>
    obtain rfl := Option.some.inj hstep
    exact { h with spawns := forall_mem_eraseIdx h.spawns k }
  | agentSend => exact invariant_agentSend h hguard hstep
  | sendMessage => exact invariant_sendMessage h hstep
  | broadcastMessage group kind text =>
    obtain rfl := Option.some.inj hstep
    refine h.withOutgoing fun out hout => ?_
    rcases List.mem_append.mp hout with hout | hout
    · exact h.outgoing out hout
    · exact routed_broadcast h out hout
  | report => exact invariant_report h hstep
  | post => exact invariant_post h hstep
  | drop k =>
    obtain rfl := Option.some.inj hstep
    exact h.withOutgoing (forall_mem_eraseIdx h.outgoing k)
  | markConsumed group session seq now =>
    obtain rfl := Option.some.inj hstep
    exact h.mark _ _ _ _
  | setStatus group agent status =>
    obtain rfl := Option.some.inj hstep
    exact h.updateStatus _ status
  | sessionClose group session =>
    obtain rfl := Option.some.inj hstep
    exact h.withSessions (named_update h.sessions)
  | reconcile =>
    obtain rfl := Option.some.inj hstep
    exact (h.updateStatus _ _).withSessions (named_update h.sessions)

lemma invariant_run {ls : List Label}
    (hrun : Run (Guarded NoInputUpward (Fires step)) initial ls st) : Invariant st :=
  hrun.invariant (fun _ _ _ h hs => invariant_step h hs.1 hs.2) invariant_initial

theorem pending_inputs_own_session {ls : List Label}
    (hrun : Run (Guarded NoInputUpward (Fires step)) initial ls st) {s : SessionRow}
    (hs : s ∈ st.sessions.rows) {rows : List AgentMsgRow}
    (hrows : st.bus.AgentMsgPending s.groupName s.name .turnInput rows) :
    (∀ row ∈ rows, row.sessionName = s.name) ∧ (rows.Pairwise fun r r' => r.seq < r'.seq) ∧
      rows.Sublist st.log := by
  have h := invariant_run hrun
  have hlogged : ∀ row ∈ rows, row ∈ st.log ∧ row.groupName = s.groupName ∧
      row.sessionName = s.name := by
    intro row hrow
    obtain ⟨hmem, hg, hto, hkind, hnone⟩ := BusTable.mem_pending.mp (hrows.mem_iff.mp hrow)
    have hlog : row ∈ st.log := unconsumed_eq hnone ▸ h.ledger.logged row hmem
    refine ⟨hlog, hg, ?_⟩
    rcases h.logged row hlog hkind with hsession | hprime
    · exact hsession.trans hto
    · exact absurd (hto.symm.trans hprime) (h.sessions s hs).2
  have hstrict : rows.Pairwise fun r r' => r.seq < r'.seq := by
    refine hrows.strict fun r hr r' hr' => ?_
    exact (hlogged r hr).2.2.trans (hlogged r' hr').2.2.symm
  refine ⟨fun row hrow => (hlogged row hrow).2.2, hstrict, ?_⟩
  refine h.ledger.sublist_of_ascending (fun r hr => (hlogged r hr).1) (fun r hr r' hr' => ?_) hstrict
  obtain ⟨_, hg, hs⟩ := hlogged r hr
  obtain ⟨_, hg', hs'⟩ := hlogged r' hr'
  exact ⟨hg.trans hg'.symm, hs.trans hs'.symm⟩

def spawnLabels (k : ℕ) : List Label :=
  ([true, true, false] ++ List.replicate 10 true).map fun outcome => .spawnStep k outcome 4

def teamLabels : List Label :=
  [.groupNew "g" [1] 1, .registerPrime 0, .spawn [1] "g" "c" .new "lead" true [2] 2] ++
    spawnLabels 0 ++ [.spawn [2] "g" "w" .new "work" false [3] 3] ++ spawnLabels 1

def downLabels : List Label := teamLabels ++ [.agentSend [2] "w" .turnInput [104, 105], .post 0 5]

theorem pending_inputs_own_session_worker : ∃ st s rows,
    Run (Guarded NoInputUpward (Fires step)) initial downLabels st ∧ s ∈ st.sessions.rows ∧
    s.name = "w" ∧ st.bus.AgentMsgPending s.groupName s.name .turnInput rows ∧ rows ≠ [] ∧
    (∀ row ∈ rows, row.sessionName = s.name) ∧ (rows.Pairwise fun r r' => r.seq < r'.seq) ∧
      rows.Sublist st.log := by
  have hsome : (execute (restrict NoInputUpward step) initial downLabels).any (fun st =>
      st.sessions.rows.any fun s =>
        s.name = "w" && (st.bus.pending s.groupName s.name .turnInput).length = 1) := by
    decide +kernel
  obtain ⟨st, hst, hany⟩ := (Option.any_eq_true _ _).mp hsome
  obtain ⟨s, hs, hrow⟩ := List.any_eq_true.mp hany
  simp only [Bool.and_eq_true, decide_eq_true_eq] at hrow
  obtain ⟨row, hpending⟩ := List.length_eq_one_iff.mp hrow.2
  have hrun := execute_restrict_run hst
  have hrows : st.bus.AgentMsgPending s.groupName s.name .turnInput [row] := by
    rw [BusTable.AgentMsgPending, hpending]
    exact ⟨List.Perm.refl _, List.pairwise_singleton _ _⟩
  refine ⟨st, s, [row], hrun, hs, hrow.1, hrows, List.cons_ne_nil _ _, ?_⟩
  exact pending_inputs_own_session hrun hs hrows

def upLabels : List Label := teamLabels ++ [.agentSend [3] "w" .turnInput [104, 105], .post 0 5]

theorem worker_input_pending_for_coordinator : ∃ st, Run (Fires step) initial upLabels st ∧
    ∃ s ∈ st.sessions.rows, ∃ row ∈ st.bus.pending s.groupName s.name .turnInput,
      row.sessionName ≠ s.name := by
  have hsome : (execute step initial upLabels).any (fun st => st.sessions.rows.any fun s =>
      (st.bus.pending s.groupName s.name .turnInput).any fun row => row.sessionName ≠ s.name) := by
    decide +kernel
  obtain ⟨st, hst, hany⟩ := (Option.any_eq_true _ _).mp hsome
  obtain ⟨s, hs, hrows⟩ := List.any_eq_true.mp hany
  obtain ⟨row, hrow, hne⟩ := List.any_eq_true.mp hrows
  exact ⟨st, execute_run hst, s, hs, row, hrow, by simpa using hne⟩

end WalkieTalkie.Orchestration.Routing
