import WalkieTalkie.Orchestration.Reachable

/-! When a kill is final. The rows of a spawn are visible from `agent_register` on and its abort
handle only from `register_child` on, and a supervisor that has just been resumed still submits the
status update it was on its way to. Outside these two windows nothing is left that could bring the
name back once the kill has removed the handle. -/

namespace WalkieTalkie.Orchestration.Kill

open Proto Store Lib.Runs Lifecycle

variable {S : Setting} {st st' : State} {l : Label}

def settingStatus : Supervisor → Bool
  | .running (.setRunning _ _) => true
  | .running .setAwaiting => true
  | _ => false

def OutsideWindows (st : State) (l : Label) : Prop :=
  l = .kill → st.kill = .killChild →
    inWindow st.spawn = false ∧ settingStatus st.supervisor = false

instance (st : State) (l : Label) : Decidable (OutsideWindows st l) :=
  inferInstanceAs (Decidable (l = .kill → st.kill = .killChild →
    inWindow st.spawn = false ∧ settingStatus st.supervisor = false))

/-- Nothing is under way: the supervisor has ended, or it is suspended and nobody stops it. -/
def Finished (st : State) : Prop :=
  st.queue = [] ∧ (∃ answer, st.spawn = .done answer) ∧
    (alive st.supervisor = false ∨
      ∃ a answered, st.supervisor = .waiting a answered ∧ st.aborted = false)

def Dead (st : State) : Prop :=
  st.harness = false ∧ (∀ status ∈ st.rows.agent, status = .exited) ∧
    (∀ status ∈ st.rows.session, status = .closed)

def settle (rows : Rows) (queue : List (Caller × Op)) : Rows :=
  queue.foldl (fun rows job => (job.2.execute rows).1) rows

lemma settle_submit (rows : Rows) (queue : List (Caller × Op)) (job : Caller × Op) :
    settle rows (queue ++ [job]) = (job.2.execute (settle rows queue)).1 := by
  simp [settle]

def Op.harmless : Op → Bool
  | .agentSetStatus status => status = .exited
  | op => !Op.creates op

def pastKill : KillPc → Bool
  | .check => false
  | .killChild => false
  | .done (.error _) => false
  | _ => true

def closing (st : State) : Prop :=
  (st.kill = .sessionClose ∧ st.killCall ≠ .ready) ∨ st.kill = .teardown ∨
    st.kill = .done (.ok ())

structure After (S : Setting) (st : State) : Prop where
  window : pastKill st.kill → inWindow st.spawn = false
  stopped : pastKill st.kill → alive st.supervisor →
    st.aborted = true ∧ settingStatus st.supervisor = false
  agent : pastKill st.kill → ¬ (st.kill = .setExited ∧ st.killCall = .ready) →
    ∀ status ∈ (settle st.rows st.queue).agent, status = .exited
  noSession : st.kill = .sessionGet → st.killCall = .answered false → st.rows.session = none
  session : closing st → ∀ status ∈ (settle st.rows st.queue).session, status = .closed

lemma harmless_agent {rows : Rows} {op : Op} (hop : Op.harmless op)
    (h : ∀ status ∈ rows.agent, status = .exited) :
    ∀ status ∈ (op.execute rows).1.agent, status = .exited := by
  cases op <;> simp_all [Op.harmless, Op.creates, Op.execute]

lemma harmless_session {rows : Rows} {op : Op} (hop : Op.harmless op)
    (h : ∀ status ∈ rows.session, status = .closed) :
    ∀ status ∈ (op.execute rows).1.session, status = .closed := by
  cases op <;> simp_all [Op.harmless, Op.creates, Op.execute]

lemma settle_session_none {queue : List (Caller × Op)} {rows : Rows}
    (hq : ∀ job ∈ queue, Op.creates job.2 = false) (h : rows.session = none) :
    (settle rows queue).session = none := by
  induction queue generalizing rows with
  | nil => exact h
  | cons job queue ih =>
    have hj := hq job (List.mem_cons_self ..)
    exact ih (fun j hm => hq j (List.mem_cons_of_mem _ hm)) (execute_session_none hj h)

lemma After.initial : After S S.initial where
  window h := by cases h
  stopped h := by cases h
  agent h := by cases h
  noSession h := by cases h
  session h := by rcases h with ⟨h, _⟩ | h | h <;> cases h

lemma After.submitted (h : After S st) (who : Caller) {op : Op}
    (hop : pastKill st.kill → Op.harmless op) : After S (submit st who op) where
  window := h.window
  stopped := h.stopped
  agent hk hr := by
    simp only [submit, settle_submit]
    exact harmless_agent (hop hk) (h.agent hk hr)
  noSession := h.noSession
  session hc := by
    have hk : pastKill st.kill := by
      rcases hc with ⟨hk, _⟩ | hk | hk <;> exact (congrArg pastKill hk).trans rfl
    simp only [submit, settle_submit]
    exact harmless_session (hop hk) (h.session hc)

lemma After.setSpawn (h : After S st) {pc : SpawnPc} (c : Call) (b : Bool)
    (hw : pastKill st.kill → inWindow pc = false) :
    After S { st with spawn := pc, spawnCall := c, harness := b } :=
  ⟨hw, h.stopped, h.agent, h.noSession, h.session⟩

lemma After.setSupervisor (h : After S st) {s : Supervisor} (handle harness : Bool)
    (hs : pastKill st.kill → alive s → st.aborted = true ∧ settingStatus s = false) :
    After S { st with supervisor := s, handle, harness } :=
  ⟨h.window, hs, h.agent, h.noSession, h.session⟩

lemma harmless_of_spawn {pc : SpawnPc} {op : Op} (he : pc.effect = .store op)
    (hw : inWindow pc = false) : Op.harmless op := by
  cases pc <;> simp_all [SpawnPc.effect, inWindow] <;> subst he <;> rfl

lemma harmless_of_supervisor {a : Await} {op : Op} (hj : a.job = some op)
    (hs : settingStatus (.running a) = false) : Op.harmless op := by
  cases a <;> simp_all [Await.job, settingStatus] <;> subst hj <;> rfl

lemma harmless_of_kill {kind : KillRequest} {pc : KillPc} {op : Op}
    (hj : pc.job kind = some op) : Op.harmless op := by
  cases pc <;> cases kind <;> simp [KillPc.job] at hj <;> subst hj <;> rfl

lemma inWindow_next_store {req : SpawnRequest} {pc : SpawnPc} {op : Op} {b : Bool}
    (he : pc.effect = .store op) (hw : inWindow pc = false) : inWindow (pc.next req b) = false := by
  cases pc <;> cases b <;> cases hm : req.mode <;>
    simp_all [SpawnPc.effect, SpawnPc.next, SpawnPc.teardown, inWindow]

lemma inWindow_next_files {req : SpawnRequest} {pc : SpawnPc} {op : FsOp} {b : Bool}
    (he : pc.effect = .files op) (hp : provisioning pc = false) :
    inWindow (pc.next req b) = false := by
  cases pc <;> simp_all [SpawnPc.effect, SpawnPc.next, inWindow, provisioning]

lemma hasTarget_of_pastKill {pc : KillPc} (h : pastKill pc) : hasTarget pc := by
  cases pc with
  | done answer =>
    cases answer with
    | ok _ => rfl
    | error _ => cases h
  | _ => first | rfl | cases h

lemma not_provisioning (h : Visible S st) (hk : pastKill st.kill) :
    provisioning st.spawn = false := by
  by_contra hp
  obtain ⟨ha, hs⟩ := h.free (by simpa using hp)
  have ht := h.target (hasTarget_of_pastKill hk)
  cases hkind : S.kind <;> simp [hkind, targets, ha, hs] at ht

lemma after_killSubmit (h : After S st) {op : Op} (hj : st.kill.job S.kind = some op) :
    After S { submit st .kill op with killCall := .sent } := by
  have hs := h.submitted .kill fun _ => harmless_of_kill hj
  refine ⟨h.window, h.stopped, fun hk _ => ?_, fun _ ha => ?_, fun hc => ?_⟩
  · by_cases he : st.kill = .setExited
    · obtain rfl : .agentSetStatus .exited = op := by simpa [he, KillPc.job] using hj
      simp only [submit, settle_submit]
      intro status hm
      obtain ⟨_, _, rfl⟩ := Option.map_eq_some_iff.mp hm
      rfl
    · exact hs.agent hk fun hr => he hr.1
  · cases ha
  · rcases hc with ⟨hk, _⟩ | hk | hk
    · have hk : st.kill = .sessionClose := hk
      obtain rfl : .sessionClose = op := by simpa [hk, KillPc.job] using hj
      simp only [submit, settle_submit]
      intro status hm
      obtain ⟨_, _, rfl⟩ := Option.map_eq_some_iff.mp hm
      rfl
    · simp [show st.kill = _ from hk, KillPc.job] at hj
    · simp [show st.kill = _ from hk, KillPc.job] at hj

lemma after_killAnswered (h : After S st) (hc : Calls S st) {op : Op} {b : Bool}
    (hj : st.kill.job S.kind = some op) (ha : st.killCall = .answered b) :
    After S { st with kill := st.kill.next S.kind b, killCall := .ready } := by
  have hpast : pastKill (st.kill.next S.kind b) → pastKill st.kill := by
    cases hk : st.kill <;> cases b <;> cases hkind : S.kind <;>
      simp_all [KillPc.next, KillPc.job, pastKill]
  refine ⟨fun hk => h.window (hpast hk), fun hk => h.stopped (hpast hk), fun hk _ => ?_,
    fun _ hr => ?_, fun hcl => ?_⟩
  · exact h.agent (hpast hk) (by simp [ha])
  · cases hr
  · by_cases hg : st.kill = .sessionGet
    · have hpk : pastKill st.kill := by simp [hg, pastKill]
      obtain rfl : b = false := by
        cases b with
        | false => rfl
        | true => simp [closing, hg, KillPc.next] at hcl
      have hnone := settle_session_none
        (fun _ hm => hc.creates hm (h.window hpk)) (h.noSession hg ha)
      intro status hm
      simp [hnone] at hm
    · refine h.session (Or.inl ⟨?_, by simp [ha]⟩)
      cases hk : st.kill <;> cases b <;> cases hkind : S.kind <;>
        simp_all [closing, KillPc.next, KillPc.job]

lemma after_store (h : After S st) (hc : Calls S st) {who : Caller} {op : Op}
    {rest : List (Caller × Op)} (hq : st.queue = (who, op) :: rest) :
    After S (answer { st with rows := (op.execute st.rows).1, queue := rest } who
      (op.execute st.rows).2) := by
  have hmem : (who, op) ∈ st.queue := hq ▸ List.mem_cons_self ..
  have hsettle : settle (op.execute st.rows).1 rest = settle st.rows st.queue := by
    rw [hq]
    rfl
  have hready : who = .kill → st.killCall ≠ .ready := by
    rintro rfl
    simp [(hc.kill op hmem).1]
  refine ⟨h.window, fun hk ha => ?_, fun hk hr => ?_, fun hk ha => ?_, fun hcl => ?_⟩
  · have hst := h.stopped hk (by rwa [alive_answer] at ha)
    refine ⟨hst.1, ?_⟩
    simp only [answer]
    split
    · cases hs : st.supervisor <;> simp_all [Supervisor.wake, settingStatus]
    · exact hst.2
  · refine hsettle ▸ h.agent hk fun hn => hr ⟨hn.1, ?_⟩
    have hw : who ≠ .kill := fun he => hready he hn.2
    simp [answer, hw, hn.2]
  · replace hk : st.kill = .sessionGet := hk
    by_cases hw : who = .kill
    · subst hw
      obtain rfl : .sessionGet = op := by
        have hj := (hc.kill op hmem).2
        rw [hk] at hj
        exact Option.some.inj hj
      simpa [answer, Op.execute] using ha
    · have hcr := hc.creates hmem (h.window (by simp [hk, pastKill]))
      exact execute_session_none hcr (h.noSession hk (by simpa [answer, hw] using ha))
  · refine hsettle ▸ h.session ?_
    refine hcl.imp_left fun hn => ⟨hn.1, fun hr => ?_⟩
    have hw : who ≠ .kill := fun he => hready he hr
    exact hn.2 (by simp [answer, hw, hr])

lemma after_moves (h : After S st) (hc : Calls S st) (hl : Launch st) (hv : Visible S st)
    (hg : OutsideWindows st l) (hm : Moves S st l st') : After S st' := by
  cases hm with
  | spawnSubmit he =>
    have hs := h.submitted .spawn fun hk => harmless_of_spawn he (h.window hk)
    exact hs.setSpawn _ _ h.window
  | spawnAnswered he =>
    exact h.setSpawn _ _ fun hk => inWindow_next_store he (h.window hk)
  | spawnFiles he =>
    exact h.setSpawn _ _ fun hk => inWindow_next_files he (not_provisioning hv hk)
  | harnessSpawn he =>
    refine h.setSpawn _ _ fun hk => ?_
    have hw := h.window hk
    simp [he, inWindow] at hw
  | spawnTask he =>
    have hw : ¬ pastKill st.kill := fun hk => by
      have := h.window hk
      simp [he, inWindow] at this
    exact ⟨fun hk => (hw hk).elim, fun hk => (hw hk).elim, h.agent, h.noSession, h.session⟩
  | registerChild he =>
    exact ⟨fun _ => rfl, h.stopped, h.agent, h.noSession, h.session⟩
  | killSubmit hj => exact after_killSubmit h hj
  | killAnswered hj ha => exact after_killAnswered h hc hj ha
  | killChild hk =>
    obtain ⟨hw, hs⟩ := hg rfl hk
    have hr := hc.idle (by simp [hk, KillPc.job])
    refine ⟨fun _ => hw, fun _ ha => ⟨?_, hs⟩, fun _ hn => (hn ⟨rfl, hr⟩).elim, fun he => ?_,
      fun hcl => ?_⟩
    · rcases hl.registered ha with hp | hh | hb
      · simp [hp, inWindow] at hw
      · simp [hh]
      · simp [hb]
    · cases he
    · rcases hcl with ⟨he, _⟩ | he | he <;> cases he
  | teardown hk =>
    have hp : pastKill st.kill := by simp [hk, pastKill]
    refine ⟨fun _ => h.window hp, fun _ => h.stopped hp, fun _ _ => ?_, fun he => ?_, fun _ => ?_⟩
    · exact h.agent hp (by simp [hk])
    · cases he
    · exact h.session (Or.inr (Or.inl hk))
  | store hq => exact after_store h hc hq
  | forgetChild => exact h.setSupervisor _ _ fun _ ha => by cases ha
  | @reachJob a op hs hj =>
    have hst : pastKill st.kill → st.aborted = true ∧ settingStatus (.running a) = false :=
      fun hk => hs ▸ h.stopped hk (by simp [hs, alive])
    have hsub := h.submitted .supervisor fun hk => harmless_of_supervisor hj (hst hk).2
    exact hsub.setSupervisor _ _ fun hk _ => ⟨(hst hk).1, rfl⟩
  | reach hs =>
    exact h.setSupervisor _ _ fun hk _ => ⟨(h.stopped hk (by simp [hs, alive])).1, rfl⟩
  | resume hs ha =>
    refine h.setSupervisor _ _ fun hk _ => ?_
    have hab := (h.stopped hk (by simp [hs, alive])).1
    simp [ha] at hab
  | drop => exact h.setSupervisor _ _ fun _ ha => by cases ha

structure Invariant (S : Setting) (st : State) : Prop where
  calls : Calls S st
  launch : Launch st
  visible : Visible S st
  after : After S st

lemma invariant_run {labels : List Label}
    (hrun : Run (Guarded OutsideWindows (Fires (step S))) S.initial labels st) :
    Invariant S st := by
  refine hrun.invariant (I := Invariant S) ?_ ⟨.initial, .initial, .initial, .initial⟩
  rintro s l t ⟨hc, hl, hv, ha⟩ ⟨hg, hs⟩
  have hm := step_moves hs
  exact ⟨calls_moves hc hm, launch_moves hl hm, visible_moves hv hc hm,
    after_moves ha hc hl hv hg hm⟩

lemma no_later_step (hk : st.kill = .done (.ok ())) (hf : Finished st)
    (ha : alive st.supervisor = false) (l : Label) : step S st l = none := by
  obtain ⟨hq, ⟨answer, hp⟩, _⟩ := hf
  cases l with
  | spawn choice => simp [step, spawnStep, hp, SpawnPc.effect]
  | kill => simp [step, killStep, hk, KillPc.job]
  | store => simp [step, storeStep, hq]
  | reach => cases hs : st.supervisor <;> simp_all [step, reachStep, alive]
  | resume next => cases hs : st.supervisor <;> simp_all [step, resumeStep, alive]
  | drop => cases hs : st.supervisor <;> simp_all [step, dropStep, alive]

lemma Invariant.dead (h : Invariant S st) (hk : st.kill = .done (.ok ())) (hf : Finished st) :
    alive st.supervisor = false ∧ Dead st := by
  have hp : pastKill st.kill := by simp [hk, pastKill]
  have hs : alive st.supervisor = false := by
    rcases hf.2.2 with ha | ⟨a, answered, hs, hb⟩
    · exact ha
    · have hab := (h.after.stopped hp (by simp [hs, alive])).1
      simp [hb] at hab
  obtain ⟨hq, ⟨answer, hd⟩, _⟩ := hf
  have hagent := h.after.agent hp (by simp [hk])
  have hsession := h.after.session (Or.inr (Or.inr hk))
  rw [hq] at hagent hsession
  refine ⟨hs, ?_, hagent, hsession⟩
  by_contra hh
  rcases h.launch.harness (by simpa using hh) with hr | hr
  · simp [hd, holdsHarness] at hr
  · simp [hs] at hr

theorem kill_is_final {labels : List Label}
    (hrun : Run (Guarded OutsideWindows (Fires (step S))) S.initial labels st)
    (hok : st.kill = .done (.ok ())) (hfinished : Finished st) :
    Dead st ∧ (S.rows = ⟨none, none⟩ → st.rows = ⟨some .exited, some .closed⟩) ∧
      ∀ later st', Run (Fires (step S)) st later st' → st' = st := by
  have h := invariant_run hrun
  obtain ⟨hs, hdead⟩ := h.dead hok hfinished
  refine ⟨hdead, fun hrows => ?_, fun later st' hlater => ?_⟩
  · obtain ⟨answer, hp⟩ := hfinished.2.1
    have hsame := (progress_run hrows hrun.forget).late (by simp [hp, late, early, provisioning])
    have ht := h.visible.target (by simp [hok, hasTarget])
    have hboth : st.rows.agent.isSome ∧ st.rows.session.isSome := by
      cases hkind : S.kind <;> simp only [hkind, targets] at ht
      · exact ⟨ht, hsame ▸ ht⟩
      · exact ⟨hsame.symm ▸ ht, ht⟩
    obtain ⟨a, ha⟩ := Option.isSome_iff_exists.mp hboth.1
    obtain ⟨s, hs⟩ := Option.isSome_iff_exists.mp hboth.2
    obtain rfl := hdead.2.1 a ha
    obtain rfl := hdead.2.2 s hs
    cases hr : st.rows
    simp_all
  · cases hlater with
    | nil => rfl
    | cons hstep _ =>
      rw [Fires, no_later_step hok hfinished hs] at hstep
      cases hstep

def killSetting : Setting := ⟨⟨.new, false⟩, .agentKill, ⟨none, none⟩⟩

def spawnCallLabels : List Label := [.spawn true, .store, .spawn true]

def killCallLabels : List Label := [.kill, .store, .kill]

def registerLabels : List Label :=
  spawnCallLabels ++ spawnCallLabels ++ [.spawn false, .spawn true, .spawn true] ++
    spawnCallLabels ++ spawnCallLabels

def launchLabels : List Label :=
  [.spawn true] ++ spawnCallLabels ++ [.spawn true, .spawn true, .reach, .store, .resume .select,
    .reach]

def killLabels : List Label :=
  killCallLabels ++ [.kill] ++ killCallLabels ++ killCallLabels ++ killCallLabels

def killed : State where
  rows := ⟨some .exited, some .closed⟩
  queue := []
  spawn := .done (.ok ())
  spawnCall := .ready
  kill := .done (.ok ())
  killCall := .ready
  supervisor := .ended
  aborted := true
  handle := false
  harness := false

theorem kill_is_final_after_launch :
    Dead killed ∧ ∀ later st', Run (Fires (step killSetting)) killed later st' → st' = killed := by
  have hrun : Run (Guarded OutsideWindows (Fires (step killSetting))) killSetting.initial
      (registerLabels ++ launchLabels ++ killLabels ++ [.drop]) killed :=
    execute_restrict_run (by decide)
  have hfinished : Finished killed := ⟨rfl, ⟨_, rfl⟩, Or.inl rfl⟩
  have h := kill_is_final hrun rfl hfinished
  exact ⟨h.1, h.2.2⟩

def revived : State :=
  { killed with
    rows := ⟨some .running, some .closed⟩
    supervisor := .waiting .select true
    aborted := false
    handle := true
    harness := true }

theorem kill_before_handle_is_undone :
    Run (Fires (step killSetting)) killSetting.initial
      (registerLabels ++ killLabels ++ launchLabels) revived ∧
    revived.kill = .done (.ok ()) ∧ Finished revived ∧ ¬ Dead revived := by
  refine ⟨execute_run (by decide), rfl, ⟨rfl, ⟨_, rfl⟩, Or.inr ⟨_, _, rfl, rfl⟩⟩, ?_⟩
  rintro ⟨hh, _⟩
  cases hh

end WalkieTalkie.Orchestration.Kill
