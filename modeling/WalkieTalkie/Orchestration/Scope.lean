import WalkieTalkie.Orchestration.Requests
import WalkieTalkie.Store.Scope

/-! The tables of the whole store, seen from one group, and the jobs of the requests on them. A request
of the group does on its part what it does on the whole store, provided that its new token is not one
of another group. A request of another group does nothing to it. -/

namespace WalkieTalkie.Orchestration.Requests

open Proto Store Lib

def scope (g : String) (st : State) : State :=
  { st with
    groups := GroupTable.scope st.groups g
    agents := st.agents.scope g
    sessions := SessionTable.scope st.sessions g
    bus := BusTable.scope st.bus g
    log := st.log.filter fun r => r.groupName = g }

variable {g : String} {st st' : State}

lemma busEnqueue_scope {out : Outgoing} (now : UInt64) (hg : out.group = g) :
    (scope g st).busEnqueue out now =
      (st.busEnqueue out now).map fun x => (scope g x.1, x.2) := by
  subst hg
  simp only [State.busEnqueue, scope, BusTable.agentMsgEnqueue_scope]
  cases he : st.bus.agentMsgEnqueue out.group out.session out.fromAgent out.toAgent out.kind
      out.payload now with
  | error e => rfl
  | ok x =>
    obtain ⟨bus, row⟩ := x
    have hrow : row.groupName = out.group := by
      rw [(BusTable.agentMsgEnqueue_ok he).1]
    simp [Except.map, hrow]

lemma busEnqueue_scope_other {out : Outgoing} {now : UInt64} {seq : ℕ} (hg : out.group ≠ g)
    (h : st.busEnqueue out now = .ok (st', seq)) : scope g st' = scope g st := by
  simp only [State.busEnqueue] at h
  split at h
  · next bus row he =>
    obtain ⟨rfl, rfl⟩ := Prod.mk.inj (Except.ok.inj h)
    have hrow : row.groupName ≠ g := by
      rw [(BusTable.agentMsgEnqueue_ok he).1]
      exact hg
    simp [scope, BusTable.agentMsgEnqueue_scope_other hg he, hrow]
  · cases h

lemma runOp_scope {sp : Spawn} (op : Op) (hg : sp.group = g)
    (htoken : ∀ r ∈ st.agents.rows, r.tokenHash = sp.tokenHash → r.groupName = g) :
    (scope g st).runOp sp op = (scope g (st.runOp sp op).1, (st.runOp sp op).2) := by
  subst hg
  cases op with
  | sessionGet => simp [State.runOp, scope, SessionTable.sessionGet_scope]
  | agentGet => simp [State.runOp, scope, AgentTable.agentGet_scope]
  | agentRegister =>
    have hscope : (st.agents.scope sp.group).agentRegister sp.agentRow =
        ((st.agents.agentRegister sp.agentRow).1.scope sp.group,
          (st.agents.agentRegister sp.agentRow).2) := AgentTable.agentRegister_scope rfl htoken
    simp [State.runOp, scope, hscope]
  | sessionCreate =>
    have hscope : (SessionTable.scope st.sessions sp.group).sessionCreate sp.sessionRow =
        (SessionTable.scope (st.sessions.sessionCreate sp.sessionRow).1 sp.group,
          (st.sessions.sessionCreate sp.sessionRow).2) := SessionTable.sessionCreate_scope rfl
    simp [State.runOp, scope, hscope]
  | agentSetStatus status => simp [State.runOp, scope, AgentTable.agentSetStatus_scope]
  | sessionClose => simp [State.runOp, scope, SessionTable.sessionClose_scope]
  | bus => rfl

lemma runOp_scope_other {sp : Spawn} (op : Op) (hg : sp.group ≠ g) :
    scope g (st.runOp sp op).1 = scope g st := by
  cases op with
  | sessionGet => rfl
  | agentGet => rfl
  | agentRegister =>
    have hscope : (st.agents.agentRegister sp.agentRow).1.scope g = st.agents.scope g :=
      AgentTable.agentRegister_scope_other hg
    simp [State.runOp, scope, hscope]
  | sessionCreate =>
    have hscope : SessionTable.scope (st.sessions.sessionCreate sp.sessionRow).1 g =
        SessionTable.scope st.sessions g := SessionTable.sessionCreate_scope_other hg
    simp [State.runOp, scope, hscope]
  | agentSetStatus status =>
    simp [State.runOp, scope, AgentTable.agentSetStatus_scope_other _ _ hg]
  | sessionClose => simp [State.runOp, scope, SessionTable.sessionClose_scope_other _ hg]
  | bus => rfl

lemma runSpawn_store {sp : Spawn} {op : Op} (outcome : Bool) (now : UInt64)
    (hpc : sp.pc ≠ .recordPrompt ∧ sp.pc ≠ .consumePrompt) (he : sp.pc.effect = .store op) :
    st.runSpawn sp outcome now =
      ((st.runOp sp op).1, { sp with pc := sp.pc.next sp.request (st.runOp sp op).2 }) := by
  rw [State.runSpawn]
  split
  · next h => exact (hpc.1 h).elim
  · next h => exact (hpc.2 h).elim
  · rw [he]

lemma runSpawn_other {sp : Spawn} (outcome : Bool) (now : UInt64)
    (he : ∀ op, sp.pc.effect ≠ .store op) :
    st.runSpawn sp outcome now = (st, { sp with pc := sp.pc.next sp.request outcome }) := by
  rw [State.runSpawn]
  split
  · next h => exact (he .bus (by rw [h]; rfl)).elim
  · next h => exact (he .bus (by rw [h]; rfl)).elim
  · split
    · next op h => exact (he op h).elim
    · rfl

lemma effect_cases (pc : SpawnPc) :
    pc = .recordPrompt ∨ pc = .consumePrompt ∨
      (∃ op, (pc ≠ .recordPrompt ∧ pc ≠ .consumePrompt) ∧ pc.effect = .store op) ∨
      ∀ op, pc.effect ≠ .store op := by
  by_cases hrecord : pc = .recordPrompt
  · exact Or.inl hrecord
  · by_cases hconsume : pc = .consumePrompt
    · exact Or.inr (Or.inl hconsume)
    · cases he : pc.effect with
      | store op => exact Or.inr (Or.inr (Or.inl ⟨op, ⟨hrecord, hconsume⟩, rfl⟩))
      | _ => exact Or.inr (Or.inr (Or.inr fun op h => by cases h))

lemma runSpawn_scope {sp : Spawn} (outcome : Bool) (now : UInt64) (hg : sp.group = g)
    (htoken : ∀ r ∈ st.agents.rows, r.tokenHash = sp.tokenHash → r.groupName = g) :
    (scope g st).runSpawn sp outcome now =
      (scope g (st.runSpawn sp outcome now).1, (st.runSpawn sp outcome now).2) := by
  rcases effect_cases sp.pc with hpc | hpc | ⟨op, hpc, he⟩ | he
  · simp only [State.runSpawn, hpc]
    rw [busEnqueue_scope now hg]
    cases st.busEnqueue ⟨sp.group, sp.session, sp.prime, sp.session, .turnInput,
      textBytes sp.initialPrompt⟩ now with
    | error e => rfl
    | ok x => rfl
  · subst hg
    simp [State.runSpawn, hpc, scope, BusTable.agentMsgMarkConsumed_scope]
  · rw [runSpawn_store outcome now hpc he, runSpawn_store outcome now hpc he,
      runOp_scope op hg htoken]
  · rw [runSpawn_other outcome now he, runSpawn_other outcome now he]

lemma runSpawn_scope_other {sp : Spawn} (outcome : Bool) (now : UInt64) (hg : sp.group ≠ g) :
    scope g (st.runSpawn sp outcome now).1 = scope g st := by
  rcases effect_cases sp.pc with hpc | hpc | ⟨op, hpc, he⟩ | he
  · simp only [State.runSpawn, hpc]
    split
    · next h => exact busEnqueue_scope_other hg h
    · rfl
  · simp [State.runSpawn, hpc, scope, BusTable.agentMsgMarkConsumed_scope_other _ _ _ hg]
  · rw [runSpawn_store outcome now hpc he]
    exact runOp_scope_other op hg
  · rw [runSpawn_other outcome now he]

/-- Agents stay with their token and group, those that come are among `new`, and the record of what was
enqueued grows at its end. -/
structure Evolves (new : AgentRow → Prop) (st st' : State) : Prop where
  kept : ∀ r ∈ st.agents.rows, ∃ r' ∈ st'.agents.rows,
    r'.tokenHash = r.tokenHash ∧ r'.groupName = r.groupName
  added : ∀ r' ∈ st'.agents.rows, new r' ∨ ∃ r ∈ st.agents.rows,
    r'.tokenHash = r.tokenHash ∧ r'.groupName = r.groupName
  log : st.log <+: st'.log

variable {new : AgentRow → Prop}

lemma Evolves.of_agents (ha : st'.agents = st.agents) (hl : st.log <+: st'.log) :
    Evolves new st st' :=
  ⟨fun r hr => ⟨r, ha ▸ hr, rfl, rfl⟩, fun r hr => Or.inr ⟨r, ha ▸ hr, rfl, rfl⟩, hl⟩

lemma Evolves.refl (st : State) : Evolves new st st :=
  .of_agents rfl (List.prefix_refl _)

lemma evolves_busEnqueue {out : Outgoing} {now : UInt64} {seq : ℕ}
    (h : st.busEnqueue out now = .ok (st', seq)) : Evolves new st st' := by
  simp only [State.busEnqueue] at h
  split at h
  · obtain ⟨rfl, rfl⟩ := Prod.mk.inj (Except.ok.inj h)
    exact .of_agents rfl (List.prefix_append _ _)
  · cases h

lemma evolves_updateStatus (p : AgentRow → Bool) (status : AgentStatus) :
    Evolves new st { st with agents := st.agents.updateStatus p status } := by
  have hsame : ∀ r : AgentRow, (if p r then r.withStatus status else r).tokenHash = r.tokenHash ∧
      (if p r then r.withStatus status else r).groupName = r.groupName := by
    intro r
    split <;> exact ⟨rfl, rfl⟩
  refine ⟨fun r hr => ?_, fun r' hr' => ?_, List.prefix_refl _⟩
  · exact ⟨_, List.mem_map.mpr ⟨r, hr, rfl⟩, hsame r⟩
  · obtain ⟨r, hr, rfl⟩ := List.mem_map.mp hr'
    exact Or.inr ⟨r, hr, hsame r⟩

lemma evolves_agentRegister {row : AgentRow} (hnew : new row) :
    Evolves new st { st with agents := (st.agents.agentRegister row).1 } := by
  cases h : (st.agents.agentRegister row).2 with
  | false => exact .of_agents (AgentTable.agentRegister_ignored h) (List.prefix_refl _)
  | true =>
    have hrows := (AgentTable.agentRegister_ok h).1
    refine ⟨fun r hr => ⟨r, ?_, rfl, rfl⟩, fun r' hr' => ?_, List.prefix_refl _⟩
    · simp only [hrows]
      exact List.mem_append_left _ hr
    · simp only [hrows] at hr'
      rcases List.mem_append.mp hr' with hr' | hr'
      · exact Or.inr ⟨r', hr', rfl, rfl⟩
      · exact Or.inl (List.mem_singleton.mp hr' ▸ hnew)

/-- What one job writes to the store; an agent that it registers is among `new`. -/
inductive Writes (new : AgentRow → Prop) (st : State) : State → Prop
  | none : Writes new st st
  | groups (groups : GroupTable) : Writes new st { st with groups }
  | enqueue {out : Outgoing} {now : UInt64} {st' : State} {seq : ℕ}
      (h : st.busEnqueue out now = .ok (st', seq)) : Writes new st st'
  | mark (group session : String) (seq : ℕ) (now : UInt64) :
      Writes new st { st with bus := st.bus.agentMsgMarkConsumed group session seq now }
  | agents (p : AgentRow → Bool) (status : AgentStatus) :
      Writes new st { st with agents := st.agents.updateStatus p status }
  | register {row : AgentRow} (hnew : new row) :
      Writes new st { st with agents := (st.agents.agentRegister row).1 }
  | create (row : SessionRow) : Writes new st { st with sessions := (st.sessions.sessionCreate row).1 }
  | close (group session : String) :
      Writes new st { st with sessions := st.sessions.sessionClose group session }

lemma Writes.evolves (h : Writes new st st') : Evolves new st st' := by
  cases h with
  | none => exact .refl st
  | groups groups => exact .of_agents rfl (List.prefix_refl _)
  | enqueue h => exact evolves_busEnqueue h
  | mark group session seq now => exact .of_agents rfl (List.prefix_refl _)
  | agents p status => exact evolves_updateStatus p status
  | register hnew => exact evolves_agentRegister hnew
  | create row => exact .of_agents rfl (List.prefix_refl _)
  | close group session => exact .of_agents rfl (List.prefix_refl _)

lemma writes_runOp {sp : Spawn} (op : Op) (hnew : new sp.agentRow) :
    Writes new st (st.runOp sp op).1 := by
  cases op with
  | agentRegister => exact .register hnew
  | agentSetStatus status => exact .agents _ status
  | sessionCreate => exact .create _
  | sessionClose => exact .close _ _
  | _ => exact .none

lemma writes_runSpawn {sp : Spawn} (outcome : Bool) (now : UInt64) (hnew : new sp.agentRow) :
    Writes new st (st.runSpawn sp outcome now).1 := by
  rcases effect_cases sp.pc with hpc | hpc | ⟨op, hpc, he⟩ | he
  · simp only [State.runSpawn, hpc]
    split
    · next h => exact .enqueue h
    · exact .none
  · simp only [State.runSpawn, hpc]
    exact .mark _ _ _ now
  · rw [runSpawn_store outcome now hpc he]
    exact writes_runOp op hnew
  · rw [runSpawn_other outcome now he]
    exact .none

lemma runSpawn_fields (sp : Spawn) (outcome : Bool) (now : UInt64) :
    (st.runSpawn sp outcome now).2.group = sp.group ∧
      (st.runSpawn sp outcome now).2.agentRow = sp.agentRow := by
  rcases effect_cases sp.pc with hpc | hpc | ⟨op, hpc, he⟩ | he
  · simp only [State.runSpawn, hpc]
    split <;> exact ⟨rfl, rfl⟩
  · simp [State.runSpawn, hpc, Spawn.agentRow]
  · rw [runSpawn_store outcome now hpc he]
    exact ⟨rfl, rfl⟩
  · rw [runSpawn_other outcome now he]
    exact ⟨rfl, rfl⟩

end WalkieTalkie.Orchestration.Requests
