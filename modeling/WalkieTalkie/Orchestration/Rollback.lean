import Mathlib.Data.List.Infix
import WalkieTalkie.Lib.Lists
import WalkieTalkie.Lib.Runs
import WalkieTalkie.Orchestration.Spawn
import WalkieTalkie.Workspace

/-! Several spawns of one name at once. Each checks, provisions, registers and, when it loses, rolls
back; the file-system and git steps are atomic, and git adds no worktree where the branch or the path
exists. Whether a step that may fail does so, and what it leaves when it fails, is a choice of the
label. -/

namespace WalkieTalkie.Orchestration.Rollback

open Proto Lib Lib.Runs Lib.Paths Workspace

structure Site where
  ws : Place
  parent : Option Place
  branch : String

def Site.of (cwd : Place) (home : PathBuf) (group session : String) : Site where
  ws := workspace cwd home group session
  parent := Lib.Paths.parent cwd (sessionDir home group session)
  branch := branchName group session

/-- What a step of the provisioning that fails has done before: how many of the directories down to
the parent are made, and whether git has checked out the worktree and made the branch. -/
structure Leftover where
  parents : ℕ
  checkout : Bool
  branch : Bool

def Leftover.none : Leftover := ⟨0, false, false⟩

structure Task where
  request : SpawnRequest
  pc : SpawnPc

structure State where
  rows : Rows
  disk : Disk
  tasks : List Task

structure Label where
  task : ℕ
  outcome : Bool
  left : Leftover

def initial (rows : Rows) (disk : Disk) (requests : List SpawnRequest) : State :=
  ⟨rows, disk, requests.map fun r => ⟨r, .sessionGet⟩⟩

def Leftover.onDisk (left : Leftover) (S : Site) (disk : Disk) : Disk :=
  let checked := if left.checkout then disk.createDirAll S.ws else disk
  if left.branch then { checked with branches := checked.branches ++ [S.branch] } else checked

def runFiles (S : Site) (left : Leftover) (disk : Disk) (outcome : Bool) : FsOp → Disk × Bool
  | .wsExists => (disk, disk.has S.ws)
  | .createParent =>
    if outcome then (S.parent.elim disk disk.createDirAll, true)
    else (S.parent.elim disk fun p => disk.createDirAll (p.take left.parents), false)
  | .isGitRepo => (disk, outcome)
  | .worktreeAdd =>
    if outcome && !disk.has S.ws && !disk.branches.contains S.branch then
      (disk.worktreeAdd S.ws S.branch, true)
    else (left.onDisk S disk, false)
  | .createDir => if outcome then (disk.createDirAll S.ws, true) else (disk, false)
  | .worktreeRemove => (if outcome then disk.removeDirAll S.ws else disk, true)
  | .branchDelete => (if outcome then disk.branchDelete S.branch else disk, true)
  | .removeDir => (if outcome && disk.has S.ws then disk.removeDirAll S.ws else disk, true)

def perform (S : Site) (st : State) (left : Leftover) (outcome : Bool) : Effect → Rows × Disk × Bool
  | .store op => ((op.execute st.rows).1, st.disk, (op.execute st.rows).2)
  | .files op => (st.rows, runFiles S left st.disk outcome op)
  | _ => (st.rows, st.disk, outcome)

def step (S : Site) (st : State) (l : Label) : Option State :=
  (st.tasks[l.task]?).map fun t =>
    let (rows, disk, ok) := perform S st l.left l.outcome t.pc.effect
    ⟨rows, disk, st.tasks.set l.task { t with pc := t.pc.next t.request ok }⟩

/-- The step creates the directory of a new workspace where there is one already. -/
def createsOver (S : Site) (st : State) (l : Label) : Bool :=
  match st.tasks[l.task]? with
  | some t => t.pc = .createDir && st.disk.has S.ws
  | none => false

abbrev CreatesFresh (S : Site) (st : State) (l : Label) : Prop := createsOver S st l = false

def registered : SpawnPc → Bool
  | .sessionCreate => true
  | .harnessSpawn => true
  | .setRunning => true
  | .recordPrompt => true
  | .consumePrompt => true
  | .spawnTask => true
  | .registerChild => true
  | .done (.ok ()) => true
  | _ => false

def rollingBack : SpawnPc → Bool
  | .setExited _ => true
  | .worktreeRemove _ => true
  | .branchDelete _ => true
  | .removeDir _ => true
  | _ => false

def holding (pc : SpawnPc) : Bool := pc = .agentRegister || registered pc || rollingBack pc

def Provisioned (S : Site) (disk : Disk) (mode : FsMode) : Prop :=
  disk.has S.ws = true ∧ (mode = .worktree → S.branch ∈ disk.branches)

def Winning (rows : Rows) (t : Task) : Prop :=
  registered t.pc = true ∨ (t.pc = .agentRegister ∧ rows.agent = none)

structure Invariant (S : Site) (st : State) : Prop where
  modes : ∀ t ∈ st.tasks, t.pc = .createDir → t.request.mode = .new
  owned : ∀ t ∈ st.tasks, registered t.pc = true ∨ rollingBack t.pc = true → st.rows.agent.isSome
  kept : ∀ t ∈ st.tasks, Winning st.rows t → Provisioned S st.disk t.request.mode
  alone : ∀ (i : ℕ) (t : Task), st.tasks[i]? = some t → Winning st.rows t →
    ∀ (j : ℕ) (u : Task), st.tasks[j]? = some u → holding u.pc = true → j = i

variable {S : Site} {st st' : State} {l : Label} {t : Task} {left : Leftover}
  {outcome : Bool}

lemma has_createDirAll (disk : Disk) (p : Place) : (disk.createDirAll p).has p = true := by
  simp [Disk.has, Disk.createDirAll, List.mem_inits]

lemma has_mono {disk disk' : Disk} {p : Place} (h : disk.paths ⊆ disk'.paths)
    (hp : disk.has p = true) : disk'.has p = true := by
  simp only [Disk.has, decide_eq_true_eq] at hp ⊢
  exact h hp

lemma next_registered {req : SpawnRequest} {pc : SpawnPc} {ok : Bool}
    (h : registered (pc.next req ok) = true) :
    registered pc = true ∨ (pc = .agentRegister ∧ ok = true) := by
  cases pc <;> cases ok <;> simp only [SpawnPc.next, SpawnPc.teardown] at h <;>
    first
      | exact Or.inl rfl
      | exact Or.inr ⟨rfl, rfl⟩
      | exact Or.inl h
      | cases h
      | (split at h <;> cases h)

lemma next_rollingBack {req : SpawnRequest} {pc : SpawnPc} {ok : Bool}
    (h : rollingBack (pc.next req ok) = true) :
    registered pc = true ∨ rollingBack pc = true ∨ (pc = .agentRegister ∧ ok = false) := by
  cases pc <;> cases ok <;> simp only [SpawnPc.next, SpawnPc.teardown] at h <;>
    first
      | exact Or.inl rfl
      | exact Or.inr (Or.inl rfl)
      | exact Or.inr (Or.inr ⟨rfl, rfl⟩)
      | cases h
      | (split at h <;> cases h)

lemma next_agentRegister {req : SpawnRequest} {pc : SpawnPc} {ok : Bool}
    (h : pc.next req ok = .agentRegister) : (pc = .createDir ∨ pc = .worktreeAdd) ∧ ok = true := by
  cases pc <;> cases ok <;> simp only [SpawnPc.next, SpawnPc.teardown] at h <;>
    first
      | exact ⟨Or.inl rfl, rfl⟩
      | exact ⟨Or.inr rfl, rfl⟩
      | cases h
      | (split at h <;> cases h)

lemma next_createDir {req : SpawnRequest} {pc : SpawnPc} {ok : Bool}
    (h : pc.next req ok = .createDir) : req.mode = .new := by
  cases pc <;> cases ok <;> simp only [SpawnPc.next, SpawnPc.teardown] at h <;>
    first
      | cases h
      | (split at h <;> first | assumption | cases h)

lemma perform_rows (pc : SpawnPc) :
    (st.rows.agent.isSome → (perform S st left outcome pc.effect).1.agent.isSome) ∧
      ((perform S st left outcome pc.effect).1.agent.isSome →
        st.rows.agent.isSome ∨ pc = .agentRegister) := by
  cases pc <;> simp only [SpawnPc.effect, perform, Op.execute] <;>
    first
      | exact ⟨id, Or.inl⟩
      | exact ⟨fun h => by simpa using h, fun h => Or.inl (by simpa using h)⟩
      | (split <;> first | exact ⟨id, Or.inl⟩ | exact ⟨fun _ => rfl, fun _ => Or.inr trivial⟩)

lemma perform_register :
    (perform S st left outcome SpawnPc.agentRegister.effect).2.2 = st.rows.agent.isNone ∧
      (perform S st left outcome SpawnPc.agentRegister.effect).1.agent.isSome := by
  simp only [SpawnPc.effect, perform, Op.execute]
  split
  · next h => simp [h]
  · next h => simpa using h

lemma subset_onDisk (left : Leftover) (S : Site) (disk : Disk) :
    disk.paths ⊆ (left.onDisk S disk).paths ∧ disk.branches ⊆ (left.onDisk S disk).branches := by
  rw [Leftover.onDisk]
  constructor
  · split <;> split <;>
      first | exact List.Subset.refl _ | exact List.subset_append_left _ _
  · split <;> split <;>
      first | exact List.Subset.refl _ | exact List.subset_append_left _ _

lemma perform_disk {pc : SpawnPc} (h : rollingBack pc = false) :
    st.disk.paths ⊆ (perform S st left outcome pc.effect).2.1.paths ∧
      st.disk.branches ⊆ (perform S st left outcome pc.effect).2.1.branches := by
  have hsame : st.disk.paths ⊆ st.disk.paths ∧ st.disk.branches ⊆ st.disk.branches :=
    ⟨List.Subset.refl _, List.Subset.refl _⟩
  cases pc with
  | createParent =>
    simp only [SpawnPc.effect, perform, runFiles]
    split <;>
    · cases S.parent with
      | none => exact hsame
      | some p => exact ⟨List.subset_append_left _ _, List.Subset.refl _⟩
  | worktreeAdd =>
    simp only [SpawnPc.effect, perform, runFiles]
    split
    · exact ⟨List.subset_append_left _ _, List.subset_append_left _ _⟩
    · exact subset_onDisk left S st.disk
  | createDir =>
    simp only [SpawnPc.effect, perform, runFiles]
    split
    · exact ⟨List.subset_append_left _ _, List.Subset.refl _⟩
    · exact hsame
  | setExited => cases h
  | worktreeRemove => cases h
  | branchDelete => cases h
  | removeDir => cases h
  | _ => exact hsame

lemma perform_enters {req : SpawnRequest} {pc : SpawnPc}
    (hfresh : pc = .createDir → st.disk.has S.ws = false)
    (hmode : pc = .createDir → req.mode = .new)
    (h : pc.next req (perform S st left outcome pc.effect).2.2 = .agentRegister) :
    st.disk.has S.ws = false ∧
      Provisioned S (perform S st left outcome pc.effect).2.1 req.mode := by
  obtain ⟨rfl | rfl, hok⟩ := next_agentRegister h
  · refine ⟨hfresh rfl, ?_⟩
    rw [Provisioned, hmode rfl]
    simp only [SpawnPc.effect, perform, runFiles] at hok ⊢
    split at hok
    · next hout =>
      rw [if_pos hout]
      exact ⟨has_createDirAll _ _, fun hm => by cases hm⟩
    · cases hok
  · simp only [SpawnPc.effect, perform, runFiles] at hok ⊢
    split at hok
    · next hout =>
      rw [if_pos hout]
      simp only [Bool.and_eq_true, Bool.not_eq_true'] at hout
      refine ⟨hout.1.2, has_createDirAll _ _, fun _ => ?_⟩
      exact List.mem_append_right _ (List.mem_singleton_self _)
    · cases hok

lemma createsFresh_iff (hk : st.tasks[l.task]? = some t) :
    CreatesFresh S st l ↔ (t.pc = .createDir → st.disk.has S.ws = false) := by
  simp [CreatesFresh, createsOver, hk]

structure Moves (S : Site) (st st' : State) (k : ℕ) (t t' : Task) : Prop where
  at_ : st.tasks[k]? = some t
  tasks : st'.tasks = st.tasks.set k t'
  request : t'.request = t.request
  modes : t'.pc = .createDir → t'.request.mode = .new
  agent : st.rows.agent.isSome → st'.rows.agent.isSome
  made : st'.rows.agent.isSome → st.rows.agent.isSome ∨ t.pc = .agentRegister
  registers : registered t'.pc = true →
    registered t.pc = true ∨ (t.pc = .agentRegister ∧ st.rows.agent = none)
  rollsBack : rollingBack t'.pc = true → registered t.pc = true ∨ rollingBack t.pc = true ∨
    (t.pc = .agentRegister ∧ st.rows.agent.isSome)
  registered_agent : t.pc = .agentRegister → st'.rows.agent.isSome
  disk : rollingBack t.pc = false → ∀ mode, Provisioned S st.disk mode → Provisioned S st'.disk mode
  enters : t'.pc = .agentRegister → (t.pc = .createDir → st.disk.has S.ws = false) →
    (t.pc = .createDir → t.request.mode = .new) →
    st.disk.has S.ws = false ∧ Provisioned S st'.disk t'.request.mode

lemma provisioned_mono {disk disk' : Disk} {mode : FsMode}
    (h : disk.paths ⊆ disk'.paths ∧ disk.branches ⊆ disk'.branches) (hp : Provisioned S disk mode) :
    Provisioned S disk' mode :=
  ⟨has_mono h.1 hp.1, fun hm => h.2 (hp.2 hm)⟩

lemma moves_of_step (hstep : step S st l = some st') : ∃ t t', Moves S st st' l.task t t' := by
  obtain ⟨t, hk, rfl⟩ := Option.map_eq_some_iff.mp hstep
  refine ⟨t, { t with pc := t.pc.next t.request (perform S st l.left l.outcome t.pc.effect).2.2 }, ?_⟩
  have hregister : t.pc = .agentRegister →
      (perform S st l.left l.outcome t.pc.effect).2.2 = st.rows.agent.isNone ∧
        (perform S st l.left l.outcome t.pc.effect).1.agent.isSome := by
    intro hpc
    rw [hpc]
    exact perform_register
  exact {
    at_ := hk
    tasks := rfl
    request := rfl
    modes := next_createDir
    agent := (perform_rows t.pc).1
    made := (perform_rows t.pc).2
    registers := fun h => by
      rcases next_registered h with hr | ⟨hpc, hok⟩
      · exact Or.inl hr
      · rw [(hregister hpc).1] at hok
        exact Or.inr ⟨hpc, Option.isNone_iff_eq_none.mp hok⟩
    rollsBack := fun h => by
      rcases next_rollingBack h with hr | hr | ⟨hpc, hok⟩
      · exact Or.inl hr
      · exact Or.inr (Or.inl hr)
      · rw [(hregister hpc).1] at hok
        exact Or.inr (Or.inr ⟨hpc, by simpa [Option.isNone_eq_false_iff] using hok⟩)
    registered_agent := fun hpc => (hregister hpc).2
    disk := fun hroll mode hp => provisioned_mono (perform_disk hroll) hp
    enters := fun hpc hfresh hmode => perform_enters hfresh hmode hpc }

lemma winning_back {u : Task} {k : ℕ} {t t' : Task} (h : Moves S st st' k t t')
    (hw : Winning st'.rows u) : Winning st.rows u := by
  rcases hw with hr | ⟨hpc, hnone⟩
  · exact Or.inl hr
  · refine Or.inr ⟨hpc, Option.not_isSome_iff_eq_none.mp fun hs => ?_⟩
    have hsome := h.agent hs
    rw [hnone] at hsome
    cases hsome

lemma not_rollingBack_of_winning {rows : Rows} (h : Winning rows t) : rollingBack t.pc = false := by
  rcases h with hr | ⟨hpc, _⟩
  · cases hpc : t.pc <;> rw [hpc] at hr <;> first | rfl | cases hr
  · rw [hpc]
    rfl

lemma Moves.get_cases {k i : ℕ} {t t' u : Task} (h : Moves S st st' k t t')
    (hi : st'.tasks[i]? = some u) : (i = k ∧ u = t') ∨ (i ≠ k ∧ st.tasks[i]? = some u) := by
  rw [h.tasks] at hi
  by_cases hik : k = i
  · subst hik
    have hlt := (List.getElem?_eq_some_iff.mp h.at_).1
    rw [List.getElem?_set_self hlt] at hi
    exact Or.inl ⟨rfl, (Option.some.inj hi).symm⟩
  · rw [List.getElem?_set_ne hik] at hi
    exact Or.inr ⟨fun he => hik he.symm, hi⟩

lemma owned_step {t' : Task} {k : ℕ} (h : Moves S st st' k t t')
    (ho : ∀ t ∈ st.tasks, registered t.pc = true ∨ rollingBack t.pc = true →
      st.rows.agent.isSome) :
    ∀ t ∈ st'.tasks, registered t.pc = true ∨ rollingBack t.pc = true →
      st'.rows.agent.isSome := by
  have hown := ho t (List.mem_of_getElem? h.at_)
  rw [h.tasks]
  refine forall_mem_set (fun u hu hr => h.agent (ho u hu hr)) fun hr => ?_
  rcases hr with hr | hr
  · rcases h.registers hr with hreg | ⟨hpc, _⟩
    · exact h.agent (hown (Or.inl hreg))
    · exact h.registered_agent hpc
  · rcases h.rollsBack hr with hreg | hroll | ⟨hpc, _⟩
    · exact h.agent (hown (Or.inl hreg))
    · exact h.agent (hown (Or.inr hroll))
    · exact h.registered_agent hpc

lemma Invariant.winning_of_holding (h : Invariant S st) {u : Task} (hu : u ∈ st.tasks)
    (hnone : st.rows.agent = none) (hh : holding u.pc = true) : Winning st.rows u := by
  simp only [holding, Bool.or_eq_true, decide_eq_true_eq] at hh
  rcases hh with (hpc | hr) | hr
  · exact Or.inr ⟨hpc, hnone⟩
  · exact Or.inl hr
  · have hsome := h.owned u hu (Or.inr hr)
    rw [hnone] at hsome
    cases hsome

lemma Moves.holding {k : ℕ} {t' : Task} (h : Moves S st st' k t t') (hinv : Invariant S st)
    (hfresh : t.pc = .createDir → st.disk.has S.ws = false) (hh : holding t'.pc = true) :
    holding t.pc = true ∨ st.disk.has S.ws = false := by
  simp only [Rollback.holding, Bool.or_eq_true, decide_eq_true_eq] at hh ⊢
  rcases hh with (hpc | hr) | hr
  · exact Or.inr (h.enters hpc hfresh (hinv.modes t (List.mem_of_getElem? h.at_))).1
  · rcases h.registers hr with hreg | ⟨hpc, _⟩
    · exact Or.inl (Or.inl (Or.inr hreg))
    · exact Or.inl (Or.inl (Or.inl hpc))
  · rcases h.rollsBack hr with hreg | hroll | ⟨hpc, _⟩
    · exact Or.inl (Or.inl (Or.inr hreg))
    · exact Or.inl (Or.inr hroll)
    · exact Or.inl (Or.inl (Or.inl hpc))

lemma invariant_step (h : Invariant S st) (hguard : CreatesFresh S st l)
    (hstep : step S st l = some st') : Invariant S st' := by
  obtain ⟨t, t', hm⟩ := moves_of_step hstep
  have ht := List.mem_of_getElem? hm.at_
  have hfresh := (createsFresh_iff hm.at_).mp hguard
  have hnew : t'.pc = .agentRegister → st'.rows.agent = none →
      st.disk.has S.ws = false ∧ Provisioned S st'.disk t'.request.mode :=
    fun hpc _ => hm.enters hpc hfresh (h.modes t ht)
  have hsingle : ∀ (i : ℕ) (u : Task), st.tasks[i]? = some u → Winning st.rows u → i ≠ l.task →
      holding t.pc = false := by
    intro i u hi hw hne
    by_contra hh
    exact hne (h.alone i u hi hw l.task t hm.at_ (by simpa using hh)).symm
  refine ⟨?_, owned_step hm h.owned, fun u hu hw => ?_, fun i u hi hw j v hj hh => ?_⟩
  · rw [hm.tasks]
    exact forall_mem_set h.modes hm.modes
  · obtain ⟨i, hi⟩ := List.mem_iff_getElem?.mp hu
    rcases hm.get_cases hi with ⟨rfl, rfl⟩ | ⟨hne, hi⟩
    · rcases hw with hr | ⟨hpc, hnone⟩
      · have hwin : Winning st.rows t := hm.registers hr
        have hp := h.kept t ht hwin
        rw [hm.request]
        exact hm.disk (not_rollingBack_of_winning hwin) _ hp
      · exact (hnew hpc hnone).2
    · have hwin := winning_back hm hw
      have hquiet := hsingle i u hi hwin hne
      simp only [holding, Bool.or_eq_false_iff] at hquiet
      exact hm.disk hquiet.2 _ (h.kept u (List.mem_of_getElem? hi) hwin)
  · rcases hm.get_cases hi with ⟨rfl, rfl⟩ | ⟨hne, hi⟩
    · rcases hm.get_cases hj with ⟨rfl, rfl⟩ | ⟨hne', hj⟩
      · rfl
      · rcases hw with hr | ⟨hpc, hnone⟩
        · exact h.alone _ t hm.at_ (hm.registers hr) j v hj hh
        · have hnone' : st.rows.agent = none := by
            refine Option.not_isSome_iff_eq_none.mp fun hs => ?_
            have hsome := hm.agent hs
            rw [hnone] at hsome
            cases hsome
          have hv := List.mem_of_getElem? hj
          have hp := h.kept v hv (h.winning_of_holding hv hnone' hh)
          rw [Provisioned, (hnew hpc hnone).1] at hp
          cases hp.1
    · have hwin := winning_back hm hw
      rcases hm.get_cases hj with ⟨rfl, rfl⟩ | ⟨_, hj⟩
      · have hquiet := hsingle i u hi hwin hne
        rcases hm.holding h hfresh hh with hold | hws
        · rw [hquiet] at hold
          cases hold
        · have hp := h.kept u (List.mem_of_getElem? hi) hwin
          rw [Provisioned, hws] at hp
          cases hp.1
      · exact h.alone i u hi hwin j v hj hh

lemma pc_initial {rows : Rows} {disk : Disk} {requests : List SpawnRequest} :
    ∀ t ∈ (initial rows disk requests).tasks, t.pc = .sessionGet := by
  intro t ht
  obtain ⟨r, _, rfl⟩ := List.mem_map.mp ht
  rfl

lemma invariant_initial (S : Site) (rows : Rows) (disk : Disk) (requests : List SpawnRequest) :
    Invariant S (initial rows disk requests) := by
  have hnot : ∀ t ∈ (initial rows disk requests).tasks, ¬ Winning rows t := by
    rintro t ht (hr | ⟨hpc, _⟩)
    · rw [pc_initial t ht] at hr
      cases hr
    · rw [pc_initial t ht] at hpc
      cases hpc
  refine ⟨fun t ht hpc => ?_, fun t ht hr => ?_, fun t ht hw => absurd hw (hnot t ht),
    fun i t hi hw => absurd hw (hnot t (List.mem_of_getElem? hi))⟩
  · rw [pc_initial t ht] at hpc
    cases hpc
  · rw [pc_initial t ht] at hr
    rcases hr with hr | hr <;> cases hr

lemma Invariant.spawned (h : Invariant S st) :
    (∀ (i j : ℕ) (t u : Task), st.tasks[i]? = some t → st.tasks[j]? = some u →
      t.pc = .done (.ok ()) → u.pc = .done (.ok ()) → i = j) ∧
    ∀ t ∈ st.tasks, t.pc = .done (.ok ()) → Provisioned S st.disk t.request.mode := by
  have hwin : ∀ t : Task, t.pc = .done (.ok ()) → Winning st.rows t := by
    intro t hpc
    apply Or.inl
    rw [hpc]
    rfl
  refine ⟨fun i j t u hi hj hti huj => ?_, fun t ht hpc => h.kept t ht (hwin t hpc)⟩
  apply h.alone j u hj (hwin u huj) i t hi
  rw [hti]
  rfl

theorem winner_keeps_workspace {rows : Rows} {disk : Disk} {requests : List SpawnRequest}
    {ls : List Label} (hrun : Run (Guarded (CreatesFresh S) (Fires (step S)))
      (initial rows disk requests) ls st) :
    (∀ (i j : ℕ) (t u : Task), st.tasks[i]? = some t → st.tasks[j]? = some u →
      t.pc = .done (.ok ()) → u.pc = .done (.ok ()) → i = j) ∧
    ∀ t ∈ st.tasks, t.pc = .done (.ok ()) → st.disk.has S.ws = true ∧
      (t.request.mode = .worktree → S.branch ∈ st.disk.branches) := by
  have hinv : Invariant S st :=
    hrun.invariant (fun _ _ _ h hs => invariant_step h hs.1 hs.2)
      (invariant_initial S rows disk requests)
  exact hinv.spawned

def site : Site := Site.of [] "/home/ann/.wt".toList "team" "api"

def noRows : Rows := ⟨none, none⟩

def twoNew : List SpawnRequest := [⟨.new, false⟩, ⟨.new, false⟩]

def successLabels (k : ℕ) : List Label :=
  List.replicate 11 ⟨k, true, .none⟩

def inTurnLabels : List Label := successLabels 0 ++ [⟨1, true, .none⟩]

theorem winner_keeps_workspace_in_turn : ∃ st t,
    Run (Guarded (CreatesFresh site) (Fires (step site))) (initial noRows emptyDisk twoNew)
      inTurnLabels st ∧
    t ∈ st.tasks ∧ t.pc = .done (.ok ()) ∧ st.disk.has site.ws = true := by
  have hsome : (execute (restrict (CreatesFresh site) (step site))
      (initial noRows emptyDisk twoNew) inTurnLabels).any (fun st =>
        st.tasks.any fun t => t.pc = .done (.ok ())) := by
    decide +kernel
  obtain ⟨st, hst, hany⟩ := (Option.any_eq_true _ _).mp hsome
  obtain ⟨t, ht, hpc⟩ := List.any_eq_true.mp hany
  have hdone : t.pc = .done (.ok ()) := by simpa using hpc
  have hrun := execute_restrict_run hst
  exact ⟨st, t, hrun, ht, hdone, ((winner_keeps_workspace hrun).2 t ht hdone).1⟩

def overtakenLabels : List Label :=
  ([0, 0, 0, 1, 1, 1, 0, 0, 0, 1, 1, 1, 1, 0, 0, 0, 0, 0]).map (⟨·, true, .none⟩)

theorem loser_removes_winners_workspace : ∃ st,
    Run (Fires (step site)) (initial noRows emptyDisk twoNew) overtakenLabels st ∧
    (∀ t ∈ st.tasks, t.pc.effect = .stop) ∧ (∃ t ∈ st.tasks, t.pc = .done (.ok ())) ∧
    st.disk.has site.ws = false := by
  have hsome : (execute (step site) (initial noRows emptyDisk twoNew) overtakenLabels).any (fun st =>
      (st.tasks.all fun t => t.pc.effect = .stop) && (st.tasks.any fun t => t.pc = .done (.ok ())) &&
        !st.disk.has site.ws) := by
    decide +kernel
  obtain ⟨st, hst, hany⟩ := (Option.any_eq_true _ _).mp hsome
  simp only [Bool.and_eq_true, List.all_eq_true, List.any_eq_true, decide_eq_true_eq,
    Bool.not_eq_true'] at hany
  obtain ⟨⟨hended, hwon⟩, hgone⟩ := hany
  exact ⟨st, execute_run hst, hended, hwon, hgone⟩

theorem worktree_winner_keeps_workspace {rows : Rows} {disk : Disk} {requests : List SpawnRequest}
    {ls : List Label} (hmode : ∀ r ∈ requests, r.mode = .worktree)
    (hrun : Run (Fires (step S)) (initial rows disk requests) ls st) :
    ∀ t ∈ st.tasks, t.pc = .done (.ok ()) → st.disk.has S.ws = true ∧ S.branch ∈ st.disk.branches := by
  have hinv : Invariant S st ∧ ∀ t ∈ st.tasks, t.request.mode = .worktree := by
    refine hrun.invariant (I := fun st => Invariant S st ∧ ∀ t ∈ st.tasks,
      t.request.mode = .worktree) ?_ ⟨invariant_initial S rows disk requests, fun t ht => ?_⟩
    · rintro s l s' ⟨h, hm⟩ hstep
      obtain ⟨t, t', hmove⟩ := moves_of_step hstep
      have ht := List.mem_of_getElem? hmove.at_
      have hguard : CreatesFresh S s l := by
        refine (createsFresh_iff hmove.at_).mpr fun hpc => ?_
        have hnew := h.modes t ht hpc
        rw [hm t ht] at hnew
        cases hnew
      refine ⟨invariant_step h hguard hstep, ?_⟩
      rw [hmove.tasks]
      exact forall_mem_set hm (hmove.request ▸ hm t ht)
    · obtain ⟨r, hr, rfl⟩ := List.mem_map.mp ht
      exact hmode r hr
  intro t ht hpc
  have hp := hinv.1.spawned.2 t ht hpc
  exact ⟨hp.1, hp.2 (hinv.2 t ht)⟩

lemma wins_step {s' : State} {k : ℕ} {t t' : Task} (hm : Moves S st s' k t t')
    (ho : ∀ t ∈ st.tasks, registered t.pc = true ∨ rollingBack t.pc = true → st.rows.agent.isSome)
    (h : AtMostOne (fun t => registered t.pc = true) st.tasks) :
    AtMostOne (fun t => registered t.pc = true) s'.tasks := by
  rw [hm.tasks]
  apply h.set hm.at_
  intro ht'
  rcases hm.registers ht' with ht | ⟨_, hnone⟩
  · exact Or.inl ht
  · refine Or.inr fun w hw hreg => ?_
    have hsome := ho w hw (Or.inl hreg)
    rw [hnone] at hsome
    cases hsome

theorem one_spawn_wins {rows : Rows} {disk : Disk} {requests : List SpawnRequest}
    {ls : List Label} (hrun : Run (Fires (step S)) (initial rows disk requests) ls st) :
    ∀ (i j : ℕ) (t u : Task), st.tasks[i]? = some t → st.tasks[j]? = some u →
      registered t.pc = true → registered u.pc = true → i = j := by
  have hinv : (∀ t ∈ st.tasks, registered t.pc = true ∨ rollingBack t.pc = true →
      st.rows.agent.isSome) ∧ AtMostOne (fun t => registered t.pc = true) st.tasks := by
    refine hrun.invariant (I := fun st => (∀ t ∈ st.tasks, registered t.pc = true ∨
      rollingBack t.pc = true → st.rows.agent.isSome) ∧
      AtMostOne (fun t => registered t.pc = true) st.tasks) ?_
      ⟨(invariant_initial S rows disk requests).owned, ?_⟩
    · rintro s l s' ⟨ho, hone⟩ hstep
      obtain ⟨t, t', hm⟩ := moves_of_step hstep
      exact ⟨owned_step hm ho, wins_step hm ho hone⟩
    · intro i j t u hi _ hr
      rw [pc_initial t (List.mem_of_getElem? hi)] at hr
      cases hr
  exact hinv.2

end WalkieTalkie.Orchestration.Rollback
