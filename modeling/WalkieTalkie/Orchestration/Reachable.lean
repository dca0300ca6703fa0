import Mathlib.Data.List.Nodup
import WalkieTalkie.Orchestration.Lifecycle

/-! What holds whenever a spawn, its supervisor and a kill run side by side: whose jobs are in the
queue, who owns the harness and its abort handle, and which rows exist at which point. -/

namespace WalkieTalkie.Orchestration.Lifecycle

open Proto Store Lib Lib.Runs

variable {S : Setting} {st st' : State} {l : Label}

/-- From the visible agent row to the registered abort handle. -/
def inWindow : SpawnPc → Bool
  | .agentRegister => true
  | .sessionCreate => true
  | .harnessSpawn => true
  | .setRunning => true
  | .recordPrompt => true
  | .consumePrompt => true
  | .spawnTask => true
  | .registerChild => true
  | _ => false

def alive : Supervisor → Bool
  | .running _ => true
  | .waiting _ _ => true
  | _ => false

def Op.creates : Op → Bool
  | .agentRegister => true
  | .sessionCreate => true
  | _ => false

def provisioning : SpawnPc → Bool
  | .wsExists => true
  | .createParent => true
  | .isGitRepo => true
  | .worktreeAdd => true
  | .createDir => true
  | _ => false

def holdsHarness : SpawnPc → Bool
  | .setRunning => true
  | .recordPrompt => true
  | .consumePrompt => true
  | .spawnTask => true
  | _ => false

def targets (kind : KillRequest) (rows : Rows) : Bool :=
  match kind with
  | .agentKill => rows.agent.isSome
  | .sessionClose => rows.session.isSome

def hasTarget : KillPc → Bool
  | .check => false
  | .done (.error _) => false
  | _ => true

structure Calls (S : Setting) (st : State) : Prop where
  nodup : (st.queue.map Prod.fst).Nodup
  spawn : ∀ op, (.spawn, op) ∈ st.queue → st.spawnCall = .sent ∧ st.spawn.effect = .store op
  kill : ∀ op, (.kill, op) ∈ st.queue → st.killCall = .sent ∧ st.kill.job S.kind = some op
  supervisor : ∀ op, (.supervisor, op) ∈ st.queue → ∃ a : Await, a.job = some op ∧
    (st.supervisor = .waiting a false ∨ st.supervisor = .ended)
  idle : st.kill.job S.kind = none → st.killCall = .ready
  launched : st.supervisor ≠ .absent → st.spawn = .registerChild ∨ st.spawn = .done (.ok ())

structure Launch (st : State) : Prop where
  registered : alive st.supervisor → st.spawn = .registerChild ∨ st.handle ∨ st.aborted
  harness : st.harness → holdsHarness st.spawn ∨ alive st.supervisor

structure Visible (S : Setting) (st : State) : Prop where
  sessionChecked : st.spawn = .sessionGet → st.spawnCall = .answered false →
    st.rows.session = none
  agentChecked : st.spawn = .agentGet →
    st.rows.session = none ∧ (st.spawnCall = .answered false → st.rows.agent = none)
  free : provisioning st.spawn → st.rows.agent = none ∧ st.rows.session = none
  found : st.kill = .check → st.killCall = .answered true → targets S.kind st.rows
  target : hasTarget st.kill → targets S.kind st.rows

lemma nodup_submit {queue : List (Caller × Op)} (h : (queue.map Prod.fst).Nodup) {who : Caller}
    {op : Op} (hn : ∀ op, (who, op) ∉ queue) : ((queue ++ [(who, op)]).map Prod.fst).Nodup := by
  apply nodup_map_snoc h
  rintro ⟨w, o⟩ hm rfl
  exact hn o hm

lemma Calls.initial : Calls S S.initial where
  nodup := List.nodup_nil
  spawn _ h := by cases h
  kill _ h := by cases h
  supervisor _ h := by cases h
  idle _ := rfl
  launched h := (h rfl).elim

lemma mem_submit {queue : List (Caller × Op)} {who who' : Caller} {op op' : Op}
    (hne : who ≠ who') (h : (who, op) ∈ queue ++ [(who', op')]) : (who, op) ∈ queue := by
  rcases List.mem_append.mp h with h | h
  · exact h
  · exact (hne (congrArg Prod.fst (List.mem_singleton.mp h))).elim

lemma mem_submit_self {queue : List (Caller × Op)} {who : Caller} {op op' : Op}
    (hn : ∀ op, (who, op) ∉ queue) (h : (who, op) ∈ queue ++ [(who, op')]) : op = op' := by
  rcases List.mem_append.mp h with h | h
  · exact (hn op h).elim
  · exact congrArg Prod.snd (List.mem_singleton.mp h)

lemma Calls.no_spawn (h : Calls S st) (hc : st.spawnCall ≠ .sent) (op : Op) :
    (.spawn, op) ∉ st.queue := fun hm => hc (h.spawn op hm).1

lemma Calls.no_kill (h : Calls S st) (hc : st.killCall ≠ .sent) (op : Op) :
    (.kill, op) ∉ st.queue := fun hm => hc (h.kill op hm).1

lemma Calls.no_supervisor (h : Calls S st) (hs : st.supervisor ≠ .ended)
    (hw : ∀ a, st.supervisor ≠ .waiting a false) (op : Op) :
    (.supervisor, op) ∉ st.queue := by
  intro hm
  obtain ⟨a, _, ha | he⟩ := h.supervisor op hm
  · exact hw a ha
  · exact hs he

lemma Calls.tail (h : Calls S st) {who : Caller} {op : Op} {rest : List (Caller × Op)}
    (hq : st.queue = (who, op) :: rest) (op' : Op) : (who, op') ∉ rest := by
  have hn := h.nodup
  rw [hq, List.map_cons, List.nodup_cons] at hn
  intro hm
  exact hn.1 (List.mem_map.mpr ⟨_, hm, rfl⟩)

lemma calls_store (h : Calls S st) {who : Caller} {op : Op} {rest : List (Caller × Op)}
    (hq : st.queue = (who, op) :: rest) (rows : Rows) (b : Bool) :
    Calls S (answer { st with rows, queue := rest } who b) := by
  have hsub : ∀ job ∈ rest, job ∈ st.queue := fun job hj => hq ▸ List.mem_cons_of_mem _ hj
  have hnodup : (rest.map Prod.fst).Nodup := by
    have hn := h.nodup
    rw [hq, List.map_cons, List.nodup_cons] at hn
    exact hn.2
  have htail := h.tail hq
  have hhead : (who, op) ∈ st.queue := hq ▸ List.mem_cons_self ..
  cases who with
  | spawn =>
    exact ⟨hnodup, fun o ho => (htail o ho).elim, fun o ho => h.kill o (hsub _ ho),
      fun o ho => h.supervisor o (hsub _ ho), h.idle, h.launched⟩
  | kill =>
    refine ⟨hnodup, fun o ho => h.spawn o (hsub _ ho), fun o ho => (htail o ho).elim,
      fun o ho => h.supervisor o (hsub _ ho), fun hj => ?_, h.launched⟩
    have hk := (h.kill op hhead).2
    rw [show st.kill.job S.kind = none from hj] at hk
    cases hk
  | supervisor =>
    obtain ⟨a, _, ha⟩ := h.supervisor op hhead
    have hlaunched := h.launched (by rcases ha with ha | ha <;> simp [ha])
    exact ⟨hnodup, fun o ho => h.spawn o (hsub _ ho), fun o ho => h.kill o (hsub _ ho),
      fun o ho => (htail o ho).elim, h.idle, fun _ => hlaunched⟩

lemma Calls.not_launched (h : Calls S st) (h₁ : st.spawn ≠ .registerChild)
    (h₂ : st.spawn ≠ .done (.ok ())) : st.supervisor = .absent := by
  by_contra hs
  rcases h.launched hs with he | he
  · exact h₁ he
  · exact h₂ he

lemma Calls.setSpawn (h : Calls S st) {pc : SpawnPc} (hn : ∀ op, (.spawn, op) ∉ st.queue)
    (h₁ : st.spawn ≠ .registerChild) (h₂ : st.spawn ≠ .done (.ok ())) (c : Call) (b : Bool) :
    Calls S { st with spawn := pc, spawnCall := c, harness := b } :=
  ⟨h.nodup, fun o ho => (hn o ho).elim, h.kill, h.supervisor, h.idle,
    fun hs => (hs (h.not_launched h₁ h₂)).elim⟩

lemma Calls.setKill (h : Calls S st) {pc : KillPc} (hc : st.killCall ≠ .sent)
    (handle aborted : Bool) :
    Calls S { st with kill := pc, killCall := .ready, handle, aborted } :=
  ⟨h.nodup, h.spawn, fun o ho => (h.no_kill hc o ho).elim, h.supervisor, fun _ => rfl, h.launched⟩

lemma Calls.setSupervisor (h : Calls S st) {sup : Supervisor} (hs : st.supervisor ≠ .absent)
    (he : st.supervisor ≠ .ended) (hw : ∀ a, st.supervisor ≠ .waiting a false)
    (handle harness : Bool) : Calls S { st with supervisor := sup, handle, harness } :=
  ⟨h.nodup, h.spawn, h.kill, fun o ho => (h.no_supervisor he hw o ho).elim, h.idle,
    fun _ => h.launched hs⟩

lemma Calls.idle_ready (h : Calls S st) {pc : KillPc} (hi : st.kill.job S.kind = none)
    (handle aborted : Bool) : Calls S { st with kill := pc, handle, aborted } := by
  have hready := h.idle hi
  have hset : Calls S { st with kill := pc, killCall := .ready, handle, aborted } :=
    h.setKill (by simp [hready]) handle aborted
  rwa [← hready] at hset

lemma calls_moves (h : Calls S st) (hm : Moves S st l st') : Calls S st' := by
  cases hm with
  | spawnSubmit he hc =>
    have hn := h.no_spawn (by simp [hc])
    refine ⟨nodup_submit h.nodup hn, fun o ho => ?_, fun o ho => ?_, fun o ho => ?_, h.idle,
      h.launched⟩
    · obtain rfl := mem_submit_self hn ho
      exact ⟨rfl, he⟩
    · exact h.kill o (mem_submit (by simp) ho)
    · exact h.supervisor o (mem_submit (by simp) ho)
  | spawnAnswered he hc =>
    have h₁ : st.spawn ≠ .registerChild := fun hp => by simp [hp, SpawnPc.effect] at he
    have h₂ : st.spawn ≠ .done (.ok ()) := fun hp => by simp [hp, SpawnPc.effect] at he
    exact h.setSpawn (h.no_spawn (by simp [hc])) h₁ h₂ .ready st.harness
  | spawnFiles he =>
    have h₁ : st.spawn ≠ .registerChild := fun hp => by simp [hp, SpawnPc.effect] at he
    have h₂ : st.spawn ≠ .done (.ok ()) := fun hp => by simp [hp, SpawnPc.effect] at he
    have hn : ∀ op, (.spawn, op) ∉ st.queue := fun op ho => by
      have := (h.spawn op ho).2
      simp [he] at this
    exact h.setSpawn hn h₁ h₂ st.spawnCall st.harness
  | harnessSpawn he =>
    have hn : ∀ op, (.spawn, op) ∉ st.queue := fun op ho => by
      have := (h.spawn op ho).2
      simp [he, SpawnPc.effect] at this
    exact h.setSpawn hn (by simp [he]) (by simp [he]) st.spawnCall _
  | spawnTask he =>
    have hs := h.not_launched (by simp [he]) (by simp [he])
    refine ⟨h.nodup, fun o ho => ?_, h.kill, fun o ho => ?_, h.idle, fun _ => Or.inl rfl⟩
    · have := (h.spawn o ho).2
      simp [he, SpawnPc.effect] at this
    · exact (h.no_supervisor (by simp [hs]) (by simp [hs]) o ho).elim
  | registerChild he =>
    refine ⟨h.nodup, fun o ho => ?_, h.kill, h.supervisor, h.idle, fun _ => Or.inr rfl⟩
    have := (h.spawn o ho).2
    simp [he, SpawnPc.effect] at this
  | killSubmit hj hc =>
    have hn := h.no_kill (by simp [hc])
    refine ⟨nodup_submit h.nodup hn, fun o ho => ?_, fun o ho => ?_, fun o ho => ?_, fun hi => ?_,
      h.launched⟩
    · exact h.spawn o (mem_submit (by simp) ho)
    · obtain rfl := mem_submit_self hn ho
      exact ⟨rfl, hj⟩
    · exact h.supervisor o (mem_submit (by simp) ho)
    · cases hj.symm.trans hi
  | killAnswered hj hc =>
    exact h.setKill (by simp [hc]) st.handle st.aborted
  | killChild hk => exact h.idle_ready (by simp [hk, KillPc.job]) _ _
  | teardown hk => exact h.idle_ready (by simp [hk, KillPc.job]) st.handle st.aborted
  | store hq => exact calls_store h hq _ _
  | forgetChild hs =>
    exact h.setSupervisor (by simp [hs]) (by simp [hs]) (by simp [hs]) false false
  | @reachJob a op hs hj =>
    have hn := h.no_supervisor (by simp [hs]) (by simp [hs])
    refine ⟨nodup_submit h.nodup hn, fun o ho => ?_, fun o ho => ?_, fun o ho => ?_, h.idle,
      fun _ => h.launched (by simp [hs])⟩
    · exact h.spawn o (mem_submit (by simp) ho)
    · exact h.kill o (mem_submit (by simp) ho)
    · obtain rfl := mem_submit_self hn ho
      exact ⟨a, hj, Or.inl rfl⟩
  | reach hs =>
    exact h.setSupervisor (by simp [hs]) (by simp [hs]) (by simp [hs]) st.handle st.harness
  | resume hs =>
    exact h.setSupervisor (by simp [hs]) (by simp [hs]) (by simp [hs]) st.handle st.harness
  | drop hs =>
    refine ⟨h.nodup, h.spawn, h.kill, fun o ho => ?_, h.idle, fun _ => h.launched (by simp [hs])⟩
    obtain ⟨a, ha, _⟩ := h.supervisor o ho
    exact ⟨a, ha, Or.inr rfl⟩

lemma Launch.initial : Launch S.initial where
  registered h := by cases h
  harness h := by cases h

lemma holdsHarness_next {req : SpawnRequest} {pc : SpawnPc} {op : Op} {b : Bool}
    (he : pc.effect = .store op) (h : holdsHarness pc) : holdsHarness (pc.next req b) := by
  cases pc <;> try cases h
  · simp only [SpawnPc.next]
    split <;> rfl
  · cases b <;> rfl
  · rfl
  · cases he

lemma alive_answer (st : State) (who : Caller) (b : Bool) :
    alive (answer st who b).supervisor = alive st.supervisor := by
  simp only [answer]
  split
  · cases st.supervisor <;> rfl
  · rfl

lemma launch_moves (h : Launch st) (hm : Moves S st l st') : Launch st' := by
  cases hm with
  | spawnSubmit => exact ⟨h.registered, h.harness⟩
  | spawnAnswered he =>
    refine ⟨fun ha => ?_, fun hh => ?_⟩
    · rcases h.registered ha with hp | hr
      · simp [hp, SpawnPc.effect] at he
      · exact Or.inr hr
    · exact (h.harness hh).imp_left (holdsHarness_next he)
  | spawnFiles he =>
    refine ⟨fun ha => ?_, fun hh => ?_⟩
    · rcases h.registered ha with hp | hr
      · simp [hp, SpawnPc.effect] at he
      · exact Or.inr hr
    · refine (h.harness hh).imp_left fun hp => ?_
      cases hpc : st.spawn <;> simp [hpc, holdsHarness, SpawnPc.effect] at hp he
  | @harnessSpawn choice he =>
    refine ⟨fun ha => ?_, fun hh => ?_⟩
    · rcases h.registered ha with hp | hr
      · simp [hp] at he
      · exact Or.inr hr
    · obtain rfl : choice = true := hh
      exact Or.inl (by rw [he]; rfl)
  | spawnTask => exact ⟨fun _ => Or.inl rfl, fun _ => Or.inr rfl⟩
  | registerChild he =>
    refine ⟨fun _ => Or.inr (Or.inl rfl), fun hh => ?_⟩
    exact Or.inr ((h.harness hh).resolve_left (by simp [he, holdsHarness]))
  | killSubmit => exact ⟨h.registered, h.harness⟩
  | killAnswered => exact ⟨h.registered, h.harness⟩
  | killChild =>
    refine ⟨fun ha => ?_, h.harness⟩
    rcases h.registered ha with hp | hr | hb
    · exact Or.inl hp
    · exact Or.inr (Or.inr (by simp [hr]))
    · exact Or.inr (Or.inr (by simp [hb]))
  | teardown => exact ⟨h.registered, h.harness⟩
  | @store who op rest =>
    have ha := alive_answer { st with rows := (op.execute st.rows).1, queue := rest } who
      (op.execute st.rows).2
    refine ⟨fun hs => ?_, fun hh => ?_⟩
    · exact h.registered (ha ▸ hs)
    · exact (h.harness hh).imp_right fun hs => ha.symm ▸ hs
  | forgetChild => exact ⟨fun ha => (by cases ha), fun hh => (by cases hh)⟩
  | reachJob hs =>
    exact ⟨fun _ => h.registered (by simp [hs, alive]),
      fun hh => (h.harness hh).imp_right fun _ => rfl⟩
  | reach hs =>
    exact ⟨fun _ => h.registered (by simp [hs, alive]),
      fun hh => (h.harness hh).imp_right fun _ => rfl⟩
  | resume hs =>
    exact ⟨fun _ => h.registered (by simp [hs, alive]),
      fun hh => (h.harness hh).imp_right fun _ => rfl⟩
  | drop => exact ⟨fun ha => (by cases ha), fun hh => (by cases hh)⟩

lemma execute_agent_none {rows : Rows} {op : Op} (hc : Op.creates op = false)
    (h : rows.agent = none) : (op.execute rows).1.agent = none := by
  cases op <;> simp_all [Op.execute, Op.creates]

lemma execute_session_none {rows : Rows} {op : Op} (hc : Op.creates op = false)
    (h : rows.session = none) : (op.execute rows).1.session = none := by
  cases op <;> simp_all [Op.execute, Op.creates]

lemma targets_execute {kind : KillRequest} {rows : Rows} (op : Op) (h : targets kind rows) :
    targets kind (op.execute rows).1 := by
  cases kind <;> cases op <;> simp_all [targets, Op.execute] <;> split <;> simp_all

lemma job_ne_creates {a : Await} {op : Op} (h : a.job = some op) : Op.creates op = false := by
  cases a <;> simp [Await.job] at h <;> subst h <;> rfl

lemma killJob_ne_creates {kind : KillRequest} {pc : KillPc} {op : Op}
    (h : pc.job kind = some op) : Op.creates op = false := by
  cases pc <;> cases kind <;> simp [KillPc.job] at h <;> subst h <;> rfl

lemma Calls.creates (h : Calls S st) {who : Caller} {op : Op} (hm : (who, op) ∈ st.queue)
    (hw : inWindow st.spawn = false) : Op.creates op = false := by
  cases who with
  | spawn =>
    have he := (h.spawn op hm).2
    cases hp : st.spawn <;> simp [hp, SpawnPc.effect, inWindow] at he hw <;> subst he <;> rfl
  | kill => exact killJob_ne_creates (h.kill op hm).2
  | supervisor =>
    obtain ⟨a, ha, _⟩ := h.supervisor op hm
    exact job_ne_creates ha

lemma Visible.initial : Visible S S.initial where
  sessionChecked _ h := by cases h
  agentChecked h := by cases h
  free h := by cases h
  found _ h := by cases h
  target h := by cases h

lemma visible_store (h : Visible S st) (hc : Calls S st) {who : Caller} {op : Op}
    {rest : List (Caller × Op)} (hq : st.queue = (who, op) :: rest) :
    Visible S (answer { st with rows := (op.execute st.rows).1, queue := rest } who
      (op.execute st.rows).2) := by
  have hmem : (who, op) ∈ st.queue := hq ▸ List.mem_cons_self ..
  refine ⟨?_, ?_, ?_, ?_, ?_⟩ <;> dsimp only [answer]
  · intro hp ha
    have hcr := hc.creates hmem (by simp [hp, inWindow])
    by_cases hw : who = .spawn
    · subst hw
      obtain rfl : op = .sessionGet := by
        have := (hc.spawn op hmem).2
        simpa [hp, SpawnPc.effect] using this.symm
      simpa [Op.execute] using ha
    · exact execute_session_none hcr (h.sessionChecked hp (by simpa [hw] using ha))
  · intro hp
    have hcr := hc.creates hmem (by simp [hp, inWindow])
    obtain ⟨hs, hag⟩ := h.agentChecked hp
    refine ⟨execute_session_none hcr hs, fun ha => ?_⟩
    by_cases hw : who = .spawn
    · subst hw
      obtain rfl : op = .agentGet := by
        have := (hc.spawn op hmem).2
        simpa [hp, SpawnPc.effect] using this.symm
      simpa [Op.execute] using ha
    · exact execute_agent_none hcr (hag (by simpa [hw] using ha))
  · intro hp
    have hcr := hc.creates hmem (by cases hs : st.spawn <;> simp_all [provisioning, inWindow])
    exact ⟨execute_agent_none hcr (h.free hp).1, execute_session_none hcr (h.free hp).2⟩
  · intro hk ha
    by_cases hw : who = .kill
    · subst hw
      have hj := (hc.kill op hmem).2
      cases hkind : S.kind <;> simp [hk, hkind, KillPc.job] at hj <;> subst hj <;>
        simpa [targets, Op.execute] using ha
    · exact targets_execute op (h.found hk (by simpa [hw] using ha))
  · exact fun hk => targets_execute op (h.target hk)

lemma next_ne_sessionGet (req : SpawnRequest) (pc : SpawnPc) (b : Bool) :
    pc.next req b ≠ .sessionGet := by
  cases pc <;> cases b <;> cases hm : req.mode <;> cases hp : req.prompt <;>
    simp [SpawnPc.next, SpawnPc.teardown, hm, hp]

lemma next_eq_agentGet {req : SpawnRequest} {pc : SpawnPc} {b : Bool}
    (h : pc.next req b = .agentGet) : pc = .sessionGet ∧ b = false := by
  cases pc <;> cases b <;> cases hm : req.mode <;> cases hp : req.prompt <;>
    simp_all [SpawnPc.next, SpawnPc.teardown]

lemma provisioning_next {req : SpawnRequest} {pc : SpawnPc} {b : Bool}
    (h : provisioning (pc.next req b)) : (pc = .agentGet ∧ b = false) ∨ provisioning pc := by
  cases pc <;> cases b <;> cases hm : req.mode <;> cases hp : req.prompt <;>
    simp_all [SpawnPc.next, SpawnPc.teardown, provisioning]

lemma Visible.setSpawn (h : Visible S st) {choice b : Bool} (h₁ : st.spawn ≠ .sessionGet)
    (h₂ : st.spawn ≠ .agentGet) :
    Visible S { st with spawn := st.spawn.next S.request choice, harness := b } := by
  refine ⟨fun hp => ?_, fun hp => ?_, fun hp => ?_, h.found, h.target⟩
  · exact (next_ne_sessionGet _ _ _ hp).elim
  · exact (h₁ (next_eq_agentGet hp).1).elim
  · exact h.free ((provisioning_next hp).resolve_left fun hp => h₂ hp.1)

lemma Visible.setKill (h : Visible S st) {pc : KillPc} (hp : pc ≠ .check)
    (ht : hasTarget pc → targets S.kind st.rows) (c : Call) (handle aborted : Bool) :
    Visible S { st with kill := pc, killCall := c, handle, aborted } :=
  ⟨h.sessionChecked, h.agentChecked, h.free, fun hk => (hp hk).elim, ht⟩

lemma killNext_ne_check (kind : KillRequest) (pc : KillPc) (op : Op) (b : Bool)
    (h : pc.job kind = some op) : pc.next kind b ≠ .check := by
  cases pc <;> cases kind <;> cases b <;> simp_all [KillPc.next, KillPc.job]

lemma visible_moves (h : Visible S st) (hc : Calls S st) (hm : Moves S st l st') :
    Visible S st' := by
  cases hm with
  | spawnSubmit =>
    refine ⟨fun _ ha => ?_, fun hp => ⟨(h.agentChecked hp).1, fun ha => ?_⟩, h.free, h.found,
      h.target⟩
    · cases ha
    · cases ha
  | @spawnAnswered _ op b he hcall =>
    refine ⟨fun hp => ?_, fun hp => ⟨?_, fun ha => ?_⟩, fun hp => ?_, h.found, h.target⟩
    · exact (next_ne_sessionGet _ _ _ hp).elim
    · obtain ⟨hs, rfl⟩ := next_eq_agentGet hp
      exact h.sessionChecked hs hcall
    · cases ha
    · rcases provisioning_next hp with ⟨hs, rfl⟩ | hp
      · exact ⟨(h.agentChecked hs).2 hcall, (h.agentChecked hs).1⟩
      · exact h.free hp
  | spawnFiles he =>
    refine h.setSpawn (fun hp => ?_) fun hp => ?_ <;> simp [hp, SpawnPc.effect] at he
  | harnessSpawn he => exact h.setSpawn (by simp [he]) (by simp [he])
  | spawnTask =>
    refine ⟨fun hp => ?_, fun hp => ?_, fun hp => ?_, h.found, h.target⟩ <;> cases hp
  | registerChild =>
    refine ⟨fun hp => ?_, fun hp => ?_, fun hp => ?_, h.found, h.target⟩ <;> cases hp
  | killSubmit =>
    refine ⟨h.sessionChecked, h.agentChecked, h.free, fun _ ha => ?_, h.target⟩
    cases ha
  | @killAnswered op b hj hcall =>
    refine h.setKill (killNext_ne_check _ _ _ _ hj) (fun ht => ?_) _ _ _
    by_cases hk : st.kill = .check
    · cases b with
      | true => exact h.found hk hcall
      | false => simp [hk, KillPc.next, hasTarget] at ht
    · apply h.target
      cases hp : st.kill <;> simp_all [hasTarget, KillPc.job]
  | killChild hk =>
    exact h.setKill (by simp) (fun _ => h.target (by simp [hk, hasTarget])) _ _ _
  | teardown hk =>
    exact h.setKill (by simp) (fun _ => h.target (by simp [hk, hasTarget])) _ _ _
  | store hq => exact visible_store h hc hq
  | _ => exact ⟨h.sessionChecked, h.agentChecked, h.free, h.found, h.target⟩

def early : SpawnPc → Bool
  | .sessionGet => true
  | .agentGet => true
  | pc => provisioning pc

def late (pc : SpawnPc) : Bool :=
  !early pc && pc ≠ .agentRegister && pc ≠ .sessionCreate

structure Progress (st : State) : Prop where
  idle : (∀ op, st.spawn.effect ≠ .store op) → st.spawnCall = .ready
  early : early st.spawn → st.rows.agent.isSome = false ∧ st.rows.session.isSome = false
  register : st.spawn = .agentRegister → st.rows.session.isSome = false ∧
    (st.rows.agent.isSome = true ↔ st.spawnCall = .answered true) ∧
    st.spawnCall ≠ .answered false
  create : st.spawn = .sessionCreate → st.rows.agent.isSome = true ∧
    (st.rows.session.isSome = true ↔ st.spawnCall = .answered true) ∧
    st.spawnCall ≠ .answered false
  late : late st.spawn → st.rows.agent.isSome = st.rows.session.isSome

lemma progress_initial (hrows : S.rows = ⟨none, none⟩) : Progress S.initial where
  idle _ := rfl
  early _ := by simp [Setting.initial, hrows]
  register h := by cases h
  create h := by cases h
  late h := by cases h

lemma execute_isSome (rows : Rows) {op : Op} (h : Op.creates op = false) :
    (op.execute rows).1.agent.isSome = rows.agent.isSome ∧
      (op.execute rows).1.session.isSome = rows.session.isSome := by
  cases op <;> simp_all [Op.execute, Op.creates]

lemma progress_store (h : Progress st) (hc : Calls S st) {who : Caller} {op : Op}
    {rest : List (Caller × Op)} (hq : st.queue = (who, op) :: rest) :
    Progress (answer { st with rows := (op.execute st.rows).1, queue := rest } who
      (op.execute st.rows).2) := by
  have hmem : (who, op) ∈ st.queue := hq ▸ List.mem_cons_self ..
  by_cases hw : who = .spawn
  · subst hw
    obtain ⟨hsent, he⟩ := hc.spawn op hmem
    refine ⟨fun hn => (hn op he).elim, fun hp => ?_, fun hp => ?_, fun hp => ?_, fun hp => ?_⟩
    all_goals dsimp only [answer] at hp ⊢
    · have hcr : Op.creates op = false := by
        cases hs : st.spawn <;> simp_all [SpawnPc.effect, Lifecycle.early, provisioning] <;>
          subst he <;> rfl
      rw [(execute_isSome _ hcr).1, (execute_isSome _ hcr).2]
      exact h.early hp
    · obtain rfl : .agentRegister = op := by simpa [hp, SpawnPc.effect] using he
      obtain ⟨hses, hag, _⟩ := h.register hp
      have hnone : st.rows.agent.isSome = false := by
        rw [Bool.eq_false_iff]
        intro ha
        cases hsent.symm.trans (hag.mp ha)
      simp [Op.execute, hnone, hses]
    · obtain rfl : .sessionCreate = op := by simpa [hp, SpawnPc.effect] using he
      obtain ⟨hag, hses, _⟩ := h.create hp
      have hnone : st.rows.session.isSome = false := by
        rw [Bool.eq_false_iff]
        intro ha
        cases hsent.symm.trans (hses.mp ha)
      simp [Op.execute, hnone, hag]
    · have hcr : Op.creates op = false := by
        cases hs : st.spawn <;>
          simp_all [SpawnPc.effect, Lifecycle.late, Lifecycle.early, provisioning] <;> subst he <;> rfl
      rw [(execute_isSome _ hcr).1, (execute_isSome _ hcr).2]
      exact h.late hp
  · have hcr : Op.creates op = false := by
      cases who with
      | spawn => exact (hw rfl).elim
      | kill => exact killJob_ne_creates (hc.kill op hmem).2
      | supervisor =>
        obtain ⟨a, ha, _⟩ := hc.supervisor op hmem
        exact job_ne_creates ha
    obtain ⟨hag, hses⟩ := execute_isSome st.rows hcr
    refine ⟨?_, ?_, ?_, ?_, ?_⟩ <;> dsimp only [answer] <;> simp only [hw, if_false, hag, hses]
    · exact h.idle
    · exact h.early
    · exact h.register
    · exact h.create
    · exact h.late

lemma late_next {req : SpawnRequest} {pc : SpawnPc} {b : Bool} (h : late pc) :
    late (pc.next req b) := by
  cases pc <;> cases b <;> cases hm : req.mode <;> cases hp : req.prompt <;>
    simp_all [late, early, provisioning, SpawnPc.next, SpawnPc.teardown]

lemma early_next {req : SpawnRequest} {pc : SpawnPc} {b : Bool} (h : early pc) :
    early (pc.next req b) ∨ pc.next req b = .agentRegister ∨ late (pc.next req b) := by
  cases pc <;> cases b <;> cases hm : req.mode <;>
    simp_all [late, early, provisioning, SpawnPc.next]

lemma early_or_late (pc : SpawnPc) :
    early pc ∨ pc = .agentRegister ∨ pc = .sessionCreate ∨ late pc := by
  cases pc <;> simp [late, early, provisioning]

lemma progress_early {st : State} (hcall : st.spawnCall = .ready)
    (hrows : st.rows.agent.isSome = false ∧ st.rows.session.isSome = false)
    (hp : early st.spawn ∨ st.spawn = .agentRegister ∨ late st.spawn) : Progress st := by
  refine ⟨fun _ => hcall, fun _ => hrows, fun _ => ?_, fun he => ?_, fun _ => ?_⟩
  · simp [hcall, hrows]
  · simp [he, early, late, provisioning] at hp
  · rw [hrows.1, hrows.2]

lemma progress_late {st : State} (hcall : st.spawnCall = .ready)
    (hrows : st.rows.agent.isSome = st.rows.session.isSome) (hp : late st.spawn) :
    Progress st := by
  refine ⟨fun _ => hcall, fun he => ?_, fun he => ?_, fun he => ?_, fun _ => hrows⟩
  · simp [late, he] at hp
  · simp [late, he] at hp
  · simp [late, he] at hp

lemma progress_answered (h : Progress st) {b : Bool} (hcall : st.spawnCall = .answered b) :
    Progress { st with spawn := st.spawn.next S.request b, spawnCall := .ready } := by
  rcases early_or_late st.spawn with hp | hp | hp | hp
  · exact progress_early rfl (h.early hp) (early_next hp)
  · obtain ⟨hses, hag, hne⟩ := h.register hp
    obtain rfl : b = true := by
      cases b with
      | true => rfl
      | false => exact (hne hcall).elim
    rw [hp]
    refine ⟨fun _ => rfl, fun he => ?_, fun he => ?_, fun _ => ?_, fun he => ?_⟩
    · cases he
    · cases he
    · simp [hag.mpr hcall, hses]
    · cases he
  · obtain ⟨hag, hses, hne⟩ := h.create hp
    obtain rfl : b = true := by
      cases b with
      | true => rfl
      | false => exact (hne hcall).elim
    exact progress_late rfl (hag.trans (hses.mpr hcall).symm) (by rw [hp]; rfl)
  · exact progress_late rfl (h.late hp) (late_next hp)

lemma progress_moves (h : Progress st) (hc : Calls S st) (hm : Moves S st l st') :
    Progress st' := by
  cases hm with
  | @spawnSubmit _ op he hcall =>
    refine ⟨fun hn => (hn op he).elim, h.early, fun hp => ?_, fun hp => ?_, h.late⟩
    · obtain ⟨hses, hag, _⟩ := h.register hp
      exact ⟨hses, by simpa [hcall, submit] using hag, by simp⟩
    · obtain ⟨hag, hses, _⟩ := h.create hp
      exact ⟨hag, by simpa [hcall, submit] using hses, by simp⟩
  | spawnAnswered _ hcall => exact progress_answered h hcall
  | @spawnFiles choice op he =>
    have hcall := h.idle (by simp [he])
    rcases early_or_late st.spawn with hp | hp | hp | hp
    · exact progress_early hcall (h.early hp) (early_next hp)
    · simp [hp, SpawnPc.effect] at he
    · simp [hp, SpawnPc.effect] at he
    · exact progress_late hcall (h.late hp) (late_next hp)
  | harnessSpawn he =>
    have hcall := h.idle (by simp [he, SpawnPc.effect])
    have hp : late st.spawn := by simp [he, late, early, provisioning]
    exact progress_late hcall (h.late hp) (late_next hp)
  | spawnTask he =>
    have hcall := h.idle (by simp [he, SpawnPc.effect])
    have hp : late st.spawn := by simp [he, late, early, provisioning]
    exact progress_late hcall (h.late hp) rfl
  | registerChild he =>
    have hcall := h.idle (by simp [he, SpawnPc.effect])
    have hp : late st.spawn := by simp [he, late, early, provisioning]
    exact progress_late hcall (h.late hp) rfl
  | store hq => exact progress_store h hc hq
  | _ => exact ⟨h.idle, h.early, h.register, h.create, h.late⟩

lemma progress_run {labels : List Label} (hrows : S.rows = ⟨none, none⟩)
    (hrun : Run (Fires (step S)) S.initial labels st) : Progress st := by
  refine (hrun.invariant (I := fun st => Calls S st ∧ Progress st) ?_
    ⟨.initial, progress_initial hrows⟩).2
  rintro s l t ⟨hc, hp⟩ hs
  exact ⟨calls_moves hc (step_moves hs), progress_moves hp hc (step_moves hs)⟩

end WalkieTalkie.Orchestration.Lifecycle
