import WalkieTalkie.Orchestration.Requests
import WalkieTalkie.Orchestration.Rollback

/-! One `GroupNew` or `Spawn` request from its first store job to its answer, with a fault at any of
its steps. `Works` says which steps succeed and what a failing step of the provisioning leaves; a
failed store job changes nothing. A spawn that fails after its workspace was made leaves it behind
unless the branch that fails tears it down, a failed provisioning is never torn down, and no branch
takes back a registered agent or an inserted session. -/

namespace WalkieTalkie.Orchestration.Failure

open Proto Store Workspace Rollback Requests Lib.Paths

structure Daemon where
  store : Requests.State
  disk : Disk

structure Works where
  groupCreate : Bool
  registerPrime : Bool
  agentByToken : Bool
  sessionGet : Bool
  agentGet : Bool
  createParent : Bool
  isGitRepo : Bool
  worktreeAdd : Bool
  left : Leftover
  createDir : Bool
  agentRegister : Bool
  sessionCreate : Bool
  harnessSpawn : Bool
  setRunning : Bool
  recordPrompt : Bool
  consumePrompt : Bool
  setExited : Bool
  worktreeRemove : Bool
  branchDelete : Bool
  removeDir : Bool

variable (S : Site) (w : Works)

def groupNew (d : Daemon) (name : String) (tokenHash : Bytes) (now : UInt64) :
    Daemon × Except IpcErrorCode Unit :=
  if w.groupCreate then
    match d.store.groups.groupCreate name now with
    | (_, false) => (d, .error .badRequest)
    | (groups, true) =>
      if w.registerPrime then
        ({ d with
          store := { d.store with
            groups
            agents := (d.store.agents.agentRegister (primeRow name tokenHash)).1 } }, .ok ())
      else ({ d with store := { d.store with groups } }, .error .internal)
  else (d, .error .internal)

def provision (mode : FsMode) (disk : Disk) : Disk × Bool :=
  if disk.has S.ws then (disk, false)
  else
    match runFiles S w.left disk w.createParent .createParent with
    | (disk, false) => (disk, false)
    | (disk, true) =>
      match mode with
      | .worktree =>
        if w.isGitRepo then runFiles S w.left disk w.worktreeAdd .worktreeAdd else (disk, false)
      | .new => runFiles S w.left disk w.createDir .createDir

def teardown (mode : FsMode) (disk : Disk) : Disk :=
  match mode with
  | .worktree =>
    let pruned := (runFiles S w.left disk w.worktreeRemove .worktreeRemove).1
    let freed := (runFiles S w.left pruned w.branchDelete .branchDelete).1
    (runFiles S w.left freed w.removeDir .removeDir).1
  | .new => (runFiles S w.left disk w.removeDir .removeDir).1

def setExited (store : Requests.State) (sp : Spawn) : Requests.State :=
  if w.setExited then (store.runOp sp (.agentSetStatus .exited)).1 else store

def recordPrompt (store : Requests.State) (sp : Spawn) : Requests.State :=
  if sp.request.prompt && w.recordPrompt then
    match store.busEnqueue ⟨sp.group, sp.session, sp.prime, sp.session, .turnInput,
      textBytes sp.initialPrompt⟩ sp.now with
    | .ok (store, seq) =>
      if w.consumePrompt then
        { store with bus := store.bus.agentMsgMarkConsumed sp.group sp.session seq sp.now }
      else store
    | .error _ => store
  else store

def start (store : Requests.State) (sp : Spawn) : Requests.State × Bool :=
  if w.harnessSpawn && w.setRunning then
    (recordPrompt w (store.runOp sp (.agentSetStatus .running)).1 sp, true)
  else (store, false)

def registerAndStart (d : Daemon) (sp : Spawn) : Daemon × Except IpcErrorCode Unit :=
  if !w.agentRegister then (d, .error .internal)
  else
    match d.store.runOp sp .agentRegister with
    | (store, false) => (⟨store, teardown S w sp.mode d.disk⟩, .error .badRequest)
    | (store, true) =>
      if !w.sessionCreate then ({ d with store }, .error .internal)
      else
        match store.runOp sp .sessionCreate with
        | (store, false) =>
          (⟨setExited w store sp, teardown S w sp.mode d.disk⟩, .error .badRequest)
        | (store, true) =>
          match start w store sp with
          | (store, true) => ({ d with store }, .ok ())
          | (store, false) =>
            (⟨setExited w store sp, teardown S w sp.mode d.disk⟩, .error .internal)

def spawnSession (d : Daemon) (sp : Spawn) : Daemon × Except IpcErrorCode Unit :=
  if !w.sessionGet then (d, .error .internal)
  else if (d.store.runOp sp .sessionGet).2 then (d, .error .badRequest)
  else if !w.agentGet then (d, .error .internal)
  else if (d.store.runOp sp .agentGet).2 then (d, .error .badRequest)
  else
    match provision S w sp.mode d.disk with
    | (disk, false) => ({ d with disk }, .error .badRequest)
    | (disk, true) => registerAndStart S w { d with disk } sp

def spawn (d : Daemon) (tokenHash : Bytes) (group session : String) (mode : FsMode)
    (initialPrompt : String) (coordinator : Bool) (childHash : Bytes) (now : UInt64) :
    Daemon × Except IpcErrorCode Unit :=
  if w.agentByToken then
    match d.store.requestSpawn tokenHash group session mode initialPrompt coordinator childHash
      now with
    | .error e => (d, .error e.code)
    | .ok sp => spawnSession S w d sp
  else (d, .error .internal)

/-- The place down to which the directories above the workspace are made. -/
def parentsMade : Option Place :=
  if w.createParent then S.parent else S.parent.map fun p => p.take w.left.parents

/-- The directories above the workspace. -/
def Above (p : Place) : Prop :=
  (∃ q, S.parent = some q ∧ p <+: q) ∨ (p <+: S.ws ∧ p ≠ S.ws)

structure DiskUnchanged (disk disk' : Disk) : Prop where
  workspace : disk'.has S.ws = disk.has S.ws
  others : ∀ p, p ≠ S.ws → ¬ Above S p → (p ∈ disk'.paths ↔ p ∈ disk.paths)
  branches : ∀ b, b ∈ disk'.branches ↔ b ∈ disk.branches

structure Unchanged (d d' : Daemon) : Prop where
  groups : d'.store.groups = d.store.groups
  agents : d'.store.agents = d.store.agents
  sessions : d'.store.sessions = d.store.sessions
  disk : DiskUnchanged S d.disk d'.disk

def AllOrNothing (d : Daemon) (result : Daemon × Except IpcErrorCode Unit) : Prop :=
  ∀ code, result.2 = .error code → Unchanged S d result.1

/-- The places of a disk: what exists below a directory exists with the directory. -/
def Tree (disk : Disk) : Prop :=
  ∀ p ∈ disk.paths, ∀ q, q <+: p → q ∈ disk.paths

def withParent (disk : Disk) : Disk := (parentsMade S w).elim disk disk.createDirAll

def Provisions (mode : FsMode) (disk : Disk) : Prop :=
  w.createParent = true ∧
    match mode with
    | .worktree => w.isGitRepo = true ∧ w.worktreeAdd = true ∧
      (withParent S w disk).has S.ws = false ∧ S.branch ∉ disk.branches
    | .new => w.createDir = true

/-- Git is asked for a worktree. -/
def AsksGit (mode : FsMode) : Prop :=
  w.createParent = true ∧ mode = .worktree ∧ w.isGitRepo = true

/-- A provisioning that fails has made the workspace or its branch. -/
def FailsLate (mode : FsMode) (disk : Disk) : Prop :=
  (∃ q, parentsMade S w = some q ∧ S.ws <+: q) ∨
    AsksGit w mode ∧ (w.left.checkout = true ∨ w.left.branch = true ∧ S.branch ∉ disk.branches)

def TearsDown (mode : FsMode) : Prop :=
  match mode with
  | .worktree => w.branchDelete = true ∧ (w.worktreeRemove = true ∨ w.removeDir = true)
  | .new => w.removeDir = true

structure Fresh (d : Daemon) (sp : Spawn) : Prop where
  sessionGet : w.sessionGet = true
  session : d.store.sessions.sessionGet sp.group sp.session = none
  agentGet : w.agentGet = true
  agent : d.store.agents.agentGet sp.group sp.session = none
  ws : d.disk.has S.ws = false

structure Abandoned (d : Daemon) (sp : Spawn) : Prop where
  provisions : Provisions S w sp.mode d.disk
  cause : w.agentRegister = false ∨
    (d.store.agents.taken sp.agentRow = true ∧ ¬ TearsDown w sp.mode) ∨
    (d.store.agents.taken sp.agentRow = false ∧
      (w.sessionCreate = false ∨ w.harnessSpawn = false ∨ w.setRunning = false))

def LeavesBehind (d : Daemon) (sp : Spawn) : Prop :=
  Fresh S w d sp ∧
    ((¬ Provisions S w sp.mode d.disk ∧ FailsLate S w sp.mode d.disk) ∨ Abandoned S w d sp)

variable {S w} {d : Daemon} {sp : Spawn} {disk : Disk} {mode : FsMode} {p : Place}

def made (S : Site) (w : Works) (mode : FsMode) (disk : Disk) : Disk :=
  match mode with
  | .worktree => (withParent S w disk).worktreeAdd S.ws S.branch
  | .new => (withParent S w disk).createDirAll S.ws

def failed (S : Site) (w : Works) (mode : FsMode) (disk : Disk) : Disk :=
  if w.createParent && mode = .worktree && w.isGitRepo then w.left.onDisk S (withParent S w disk)
  else withParent S w disk

lemma mem_createDirAll {q : Place} :
    p ∈ (disk.createDirAll q).paths ↔ p ∈ disk.paths ∨ p <+: q := by
  simp [Disk.createDirAll, List.mem_inits]

lemma mem_withParent : p ∈ (withParent S w disk).paths ↔
    p ∈ disk.paths ∨ ∃ q, parentsMade S w = some q ∧ p <+: q := by
  cases hp : parentsMade S w with
  | none => simp [withParent, hp]
  | some q => simp [withParent, hp, mem_createDirAll]

lemma branches_withParent : (withParent S w disk).branches = disk.branches := by
  cases hp : parentsMade S w with
  | none => simp [withParent, hp]
  | some q => simp [withParent, hp, Disk.createDirAll]

lemma above_of_parentsMade (h : ∃ q, parentsMade S w = some q ∧ p <+: q) : Above S p := by
  obtain ⟨q, hq, hpre⟩ := h
  rw [parentsMade] at hq
  split at hq
  · exact Or.inl ⟨q, hq, hpre⟩
  · obtain ⟨r, hr, rfl⟩ := Option.map_eq_some_iff.mp hq
    exact Or.inl ⟨r, hr, hpre.trans (List.take_prefix _ _)⟩

lemma mem_made : p ∈ (made S w mode disk).paths ↔
    p ∈ disk.paths ∨ (∃ q, parentsMade S w = some q ∧ p <+: q) ∨ p <+: S.ws := by
  cases mode with
  | worktree =>
    have hmem := @mem_createDirAll (withParent S w disk) p S.ws
    rw [mem_withParent, or_assoc] at hmem
    exact hmem
  | new =>
    rw [made, mem_createDirAll, mem_withParent, or_assoc]

lemma has_iff {q : Place} : disk.has q = true ↔ q ∈ disk.paths := by
  simp [Disk.has]

lemma has_made : (made S w mode disk).has S.ws = true :=
  has_iff.mpr (mem_made.mpr (Or.inr (Or.inr (List.prefix_refl _))))

lemma mem_onDisk {left : Leftover} : p ∈ (left.onDisk S disk).paths ↔
    p ∈ disk.paths ∨ left.checkout = true ∧ p <+: S.ws := by
  rw [Leftover.onDisk]
  split <;> split <;> simp_all [mem_createDirAll]

lemma branches_onDisk {left : Leftover} {b : String} : b ∈ (left.onDisk S disk).branches ↔
    b ∈ disk.branches ∨ left.branch = true ∧ b = S.branch := by
  rw [Leftover.onDisk]
  split <;> split <;> simp_all [Disk.createDirAll]

lemma asksGit_iff : (w.createParent && mode = .worktree && w.isGitRepo) = true ↔ AsksGit w mode := by
  simp [AsksGit, and_assoc]

lemma mem_failed : p ∈ (failed S w mode disk).paths ↔
    p ∈ disk.paths ∨ (∃ q, parentsMade S w = some q ∧ p <+: q) ∨
      AsksGit w mode ∧ w.left.checkout = true ∧ p <+: S.ws := by
  rw [failed]
  split
  · next h =>
    rw [mem_onDisk, mem_withParent, or_assoc]
    simp [asksGit_iff.mp h]
  · next h =>
    have hnot : ¬ AsksGit w mode := fun hask => h (asksGit_iff.mpr hask)
    rw [mem_withParent]
    simp [hnot]

lemma branches_failed {b : String} : b ∈ (failed S w mode disk).branches ↔
    b ∈ disk.branches ∨ AsksGit w mode ∧ w.left.branch = true ∧ b = S.branch := by
  rw [failed]
  split
  · next h => simp [branches_onDisk, branches_withParent, asksGit_iff.mp h]
  · next h =>
    have hnot : ¬ AsksGit w mode := fun hask => h (asksGit_iff.mpr hask)
    simp [branches_withParent, hnot]

lemma createParent_eq : runFiles S w.left disk w.createParent .createParent =
    (withParent S w disk, w.createParent) := by
  cases hparent : w.createParent with
  | true => simp [runFiles, withParent, parentsMade, hparent]
  | false => cases hp : S.parent <;> simp [runFiles, withParent, parentsMade, hparent, hp]

lemma provision_refused (h : disk.has S.ws = true) : provision S w mode disk = (disk, false) :=
  if_pos h

lemma provision_ok (hws : disk.has S.ws = false) (hp : Provisions S w mode disk) :
    provision S w mode disk = (made S w mode disk, true) := by
  rw [provision, if_neg (by simp [hws]), createParent_eq, hp.1]
  cases mode with
  | worktree =>
    obtain ⟨_, hrepo, hadd, hhas, hbranch⟩ := hp
    simp [runFiles, hrepo, hadd, hhas, hbranch, branches_withParent, made]
  | new =>
    have hdir : w.createDir = true := hp.2
    simp [runFiles, hdir, made]

lemma provision_fails (hws : disk.has S.ws = false) (hp : ¬ Provisions S w mode disk) :
    provision S w mode disk = (failed S w mode disk, false) := by
  rw [provision, if_neg (by simp [hws]), createParent_eq]
  cases hparent : w.createParent with
  | false => simp [failed, hparent]
  | true =>
    cases mode with
    | worktree =>
      cases hrepo : w.isGitRepo with
      | false => simp [failed, hrepo]
      | true =>
        have hnot : ¬ (w.worktreeAdd = true ∧ (withParent S w disk).has S.ws = false ∧
            S.branch ∉ (withParent S w disk).branches) := by
          rw [branches_withParent]
          exact fun h => hp ⟨hparent, hrepo, h⟩
        simp only [if_true, runFiles, failed, hparent, hrepo, Bool.and_self, decide_true]
        rw [if_neg]
        simpa [and_assoc] using hnot
    | new =>
      have hdir : w.createDir = false := by simpa [Provisions, hparent] using hp
      simp [runFiles, hdir, failed]

lemma unchanged_failed (hws : disk.has S.ws = false) :
    DiskUnchanged S disk (failed S w mode disk) ↔ ¬ FailsLate S w mode disk := by
  have hnot : S.ws ∉ disk.paths := fun h => by simp [has_iff.mpr h] at hws
  constructor
  · rintro ⟨hsame, _, hbranches⟩ hlate
    have hgone : S.ws ∉ (failed S w mode disk).paths := fun h => by
      rw [hws, has_iff.mpr h] at hsame
      cases hsame
    rw [mem_failed, not_or] at hgone
    rcases hlate with hq | ⟨hask, hcheckout | ⟨hbranch, hfree⟩⟩
    · exact hgone.2 (Or.inl hq)
    · exact hgone.2 (Or.inr ⟨hask, hcheckout, List.prefix_refl _⟩)
    · exact hfree ((hbranches _).mp (branches_failed.mpr (Or.inr ⟨hask, hbranch, rfl⟩)))
  · intro hlate
    refine ⟨?_, fun p hne habove => ?_, fun b => ?_⟩
    · rw [hws, Bool.eq_false_iff]
      intro hhas
      rcases mem_failed.mp (has_iff.mp hhas) with h | hq | ⟨hask, hcheckout, _⟩
      · exact hnot h
      · exact hlate (Or.inl hq)
      · exact hlate (Or.inr ⟨hask, Or.inl hcheckout⟩)
    · rw [mem_failed]
      refine or_iff_left fun h => habove ?_
      rcases h with hq | ⟨_, _, hpre⟩
      · exact above_of_parentsMade hq
      · exact Or.inr ⟨hpre, hne⟩
    · rw [branches_failed]
      refine or_iff_left_of_imp ?_
      rintro ⟨hask, hbranch, rfl⟩
      by_contra hfree
      exact hlate (Or.inr ⟨hask, Or.inr ⟨hbranch, hfree⟩⟩)

lemma mem_removed {q : Place} : q ∈ (disk.removeDirAll p).paths ↔ q ∈ disk.paths ∧ ¬ p <+: q :=
  Disk.mem_removeDirAll

lemma removed_has : (disk.removeDirAll p).has p = false := by
  rw [Bool.eq_false_iff]
  intro h
  exact (mem_removed.mp (has_iff.mp h)).2 (List.prefix_refl _)

lemma teardown_new : teardown S w .new disk =
    if w.removeDir && disk.has S.ws then disk.removeDirAll S.ws else disk := rfl

lemma teardown_worktree : teardown S w .worktree disk =
    let pruned := if w.worktreeRemove then disk.removeDirAll S.ws else disk
    let freed := if w.branchDelete then pruned.branchDelete S.branch else pruned
    if w.removeDir && freed.has S.ws then freed.removeDirAll S.ws else freed := rfl

def freedBranches (S : Site) (mode : FsMode) (disk : Disk) : List String :=
  match mode with
  | .worktree => disk.branches.filter fun b => b ≠ S.branch
  | .new => disk.branches

lemma teardown_complete (hws : disk.has S.ws = true) (ht : TearsDown w mode) :
    (∀ q, q ∈ (teardown S w mode disk).paths ↔ q ∈ disk.paths ∧ ¬ S.ws <+: q) ∧
      (teardown S w mode disk).branches = freedBranches S mode disk := by
  cases mode with
  | new =>
    have hremove : w.removeDir = true := ht
    simp only [teardown_new, hremove, hws, Bool.and_self, if_true]
    exact ⟨fun _ => mem_removed, rfl⟩
  | worktree =>
    obtain ⟨hbranch, hremove⟩ := ht
    cases hprune : w.worktreeRemove with
    | true =>
      have hgone : ((disk.removeDirAll S.ws).branchDelete S.branch).has S.ws = false := removed_has
      simp only [teardown_worktree, hprune, hbranch, if_true, hgone, Bool.and_false,
        Bool.false_eq_true, if_false]
      exact ⟨fun _ => mem_removed, rfl⟩
    | false =>
      have hdir : w.removeDir = true := hremove.resolve_left (by simp [hprune])
      have hhas : (disk.branchDelete S.branch).has S.ws = true := hws
      simp only [teardown_worktree, hprune, hbranch, hdir, hhas, Bool.and_self, if_true,
        Bool.false_eq_true, if_false]
      exact ⟨fun _ => mem_removed, rfl⟩

lemma teardown_incomplete (hws : disk.has S.ws = true)
    (hbranch : mode = .worktree → S.branch ∈ disk.branches) (ht : ¬ TearsDown w mode) :
    (teardown S w mode disk).has S.ws = true ∨
      (mode = .worktree ∧ S.branch ∈ (teardown S w mode disk).branches) := by
  cases mode with
  | new =>
    have hremove : w.removeDir = false := by simpa [TearsDown] using ht
    refine Or.inl ?_
    simpa [teardown_new, hremove] using hws
  | worktree =>
    have hmem := hbranch rfl
    cases hdelete : w.branchDelete with
    | false =>
      refine Or.inr ⟨rfl, ?_⟩
      simp only [teardown_worktree, hdelete, Bool.false_eq_true, if_false]
      split <;> split <;> exact hmem
    | true =>
      have hnot : ¬ (w.worktreeRemove = true ∨ w.removeDir = true) := fun h => ht ⟨hdelete, h⟩
      obtain ⟨hprune, hdir⟩ : w.worktreeRemove = false ∧ w.removeDir = false := by
        simpa using hnot
      refine Or.inl ?_
      simp only [teardown_worktree, hprune, hdir, hdelete, Bool.false_and, Bool.false_eq_true,
        if_true, if_false]
      exact hws

lemma branch_made (hp : Provisions S w mode disk) (hmode : mode = .worktree) :
    S.branch ∈ (made S w mode disk).branches ∧ S.branch ∉ disk.branches := by
  subst hmode
  refine ⟨?_, hp.2.2.2.2⟩
  simp [made, Disk.worktreeAdd]

lemma changed_of_has (hws : disk.has S.ws = false) {disk' : Disk} (hhas : disk'.has S.ws = true) :
    ¬ DiskUnchanged S disk disk' := by
  intro h
  rw [h.workspace, hws] at hhas
  cases hhas

lemma unchanged_teardown (htree : Tree disk) (hws : disk.has S.ws = false)
    (hp : Provisions S w mode disk) :
    DiskUnchanged S disk (teardown S w mode (made S w mode disk)) ↔ TearsDown w mode := by
  have hnot : S.ws ∉ disk.paths := fun h => by simp [has_iff.mpr h] at hws
  constructor
  · intro h
    by_contra ht
    rcases teardown_incomplete has_made (fun hm => (branch_made hp hm).1) ht with hhas | ⟨hm, hb⟩
    · exact changed_of_has hws hhas h
    · exact (branch_made hp hm).2 ((h.branches _).mp hb)
  · intro ht
    have hmade : (made S w mode disk).has S.ws = true := has_made
    obtain ⟨hpaths, hbranches⟩ := teardown_complete hmade ht
    refine ⟨?_, ?_, ?_⟩
    · rw [hws, Bool.eq_false_iff]
      intro hhas
      exact ((hpaths _).mp (has_iff.mp hhas)).2 (List.prefix_refl _)
    · intro p hne habove
      rw [hpaths, mem_made]
      constructor
      · rintro ⟨hmem | hq | hpre, _⟩
        · exact hmem
        · exact (habove (above_of_parentsMade hq)).elim
        · exact (habove (Or.inr ⟨hpre, hne⟩)).elim
      · exact fun hmem => ⟨Or.inl hmem, fun hpre => hnot (htree p hmem _ hpre)⟩
    · intro b
      rw [hbranches]
      cases mode with
      | new =>
        have hmade : freedBranches S .new (made S w .new disk) = (withParent S w disk).branches :=
          rfl
        rw [hmade, branches_withParent]
      | worktree =>
        have hfree := hp.2.2.2.2
        have hmade : (made S w .worktree disk).branches = disk.branches ++ [S.branch] :=
          congrArg (· ++ [S.branch]) branches_withParent
        rw [freedBranches, hmade]
        by_cases hb : b = S.branch
        · simp [hb, hfree]
        · simp [hb]

lemma agentRegister_taken {t : AgentTable} {row : AgentRow} (h : t.taken row = true) :
    t.agentRegister row = (t, false) := by
  simp [AgentTable.agentRegister, h]

lemma agentRegister_free {t : AgentTable} {row : AgentRow} (h : t.taken row = false) :
    (t.agentRegister row).1.rows = t.rows ++ [row] ∧ (t.agentRegister row).2 = true := by
  simp [AgentTable.agentRegister, h]

lemma unchanged_refl (d : Daemon) : Unchanged S d d :=
  ⟨rfl, rfl, rfl, rfl, fun _ _ _ => Iff.rfl, fun _ => Iff.rfl⟩

lemma allOrNothing_same {code : IpcErrorCode} : AllOrNothing S d (d, .error code) :=
  fun _ _ => unchanged_refl d

lemma allOrNothing_disk {code : IpcErrorCode} :
    AllOrNothing S d ({ d with disk }, .error code) ↔ DiskUnchanged S d.disk disk := by
  constructor
  · intro h
    exact (h code rfl).disk
  · intro h _ _
    exact ⟨rfl, rfl, rfl, h⟩

lemma rows_setExited {store : Requests.State} :
    (setExited w store sp).agents.rows.length = store.agents.rows.length := by
  rw [setExited]
  split
  · simp [State.runOp, AgentTable.agentSetStatus, AgentTable.updateStatus, Lib.Table.update]
  · rfl

lemma registered_not_unchanged {d' : Daemon} {row : AgentRow}
    (h : d'.store.agents.rows.length = (d.store.agents.rows ++ [row]).length) :
    ¬ Unchanged S d d' := by
  intro hu
  rw [hu.agents, List.length_append, List.length_singleton] at h
  omega

lemma runOp_register_free (h : d.store.agents.taken sp.agentRow = false) :
    ∃ store, d.store.runOp sp .agentRegister = (store, true) ∧
      store.agents.rows = d.store.agents.rows ++ [sp.agentRow] ∧
      store.sessions = d.store.sessions := by
  obtain ⟨hrows, hok⟩ := agentRegister_free h
  exact ⟨{ d.store with agents := (d.store.agents.agentRegister sp.agentRow).1 },
    Prod.ext rfl hok, hrows, rfl⟩

lemma runOp_create_free {store : Requests.State}
    (h : store.sessions.sessionGet sp.group sp.session = none) :
    ∃ store', store.runOp sp .sessionCreate = (store', true) ∧ store'.agents = store.agents := by
  have hfree : store.sessions.has sp.sessionRow.key = false := by
    rw [Lib.Table.has_eq_false]
    intro r hr hk
    have hsome := Lib.Table.find_eq_some.mpr ⟨hr, hk⟩
    exact Option.some_ne_none r (hsome.symm.trans h)
  have hok : (store.sessions.sessionCreate sp.sessionRow).2 = true :=
    (Lib.Table.insertOrIgnore_of_not_has hfree).2
  exact ⟨{ store with sessions := (store.sessions.sessionCreate sp.sessionRow).1 },
    Prod.ext rfl hok, rfl⟩

lemma registerAndStart_free {disk : Disk}
    (hsession : d.store.sessions.sessionGet sp.group sp.session = none)
    (hregister : w.agentRegister = true) (hfree : d.store.agents.taken sp.agentRow = false) :
    AllOrNothing S d (registerAndStart S w { d with disk } sp) ↔
      w.sessionCreate = true ∧ w.harnessSpawn = true ∧ w.setRunning = true := by
  obtain ⟨store, hstep, hrows, hsessions⟩ := @runOp_register_free d sp hfree
  obtain ⟨store', hcreate, hagents⟩ := @runOp_create_free sp store (hsessions ▸ hsession)
  have hlen : store.agents.rows.length = (d.store.agents.rows ++ [sp.agentRow]).length := by
    rw [hrows]
  cases hc : w.sessionCreate with
  | false =>
    simp only [registerAndStart, hregister, hstep, hc, Bool.not_true, Bool.not_false,
      Bool.false_eq_true, if_true, if_false, false_and, iff_false]
    exact fun h => registered_not_unchanged hlen (h .internal rfl)
  | true =>
    simp only [registerAndStart, hregister, hstep, hc, hcreate, Bool.not_true, Bool.false_eq_true,
      if_false, true_and]
    cases hboth : w.harnessSpawn && w.setRunning with
    | true =>
      have hworks : w.harnessSpawn = true ∧ w.setRunning = true := by simpa using hboth
      simp only [start, hworks, Bool.and_self, if_true, and_self, iff_true]
      intro code hcode
      cases hcode
    | false =>
      have hfails : ¬ (w.harnessSpawn = true ∧ w.setRunning = true) := by simpa using hboth
      simp only [start, hboth, Bool.false_eq_true, if_false, hfails, iff_false]
      have hlen' : (setExited w store' sp).agents.rows.length =
          (d.store.agents.rows ++ [sp.agentRow]).length := by
        rw [rows_setExited, hagents, hlen]
      exact fun h => registered_not_unchanged hlen' (h .internal rfl)

lemma registerAndStart_iff {disk : Disk}
    (hsession : d.store.sessions.sessionGet sp.group sp.session = none)
    (hleft : ¬ DiskUnchanged S d.disk disk)
    (hdown : DiskUnchanged S d.disk (teardown S w sp.mode disk) ↔ TearsDown w sp.mode) :
    AllOrNothing S d (registerAndStart S w { d with disk } sp) ↔
      ¬ (w.agentRegister = false ∨
        (d.store.agents.taken sp.agentRow = true ∧ ¬ TearsDown w sp.mode) ∨
        (d.store.agents.taken sp.agentRow = false ∧
          (w.sessionCreate = false ∨ w.harnessSpawn = false ∨ w.setRunning = false))) := by
  cases hregister : w.agentRegister with
  | false =>
    simp only [registerAndStart, hregister, Bool.not_false, if_true, true_or, not_true, iff_false]
    exact fun h => hleft (allOrNothing_disk.mp h)
  | true =>
    cases htaken : d.store.agents.taken sp.agentRow with
    | true =>
      have hstep : d.store.runOp sp .agentRegister = (d.store, false) := by
        simp [State.runOp, agentRegister_taken htaken]
      simp only [registerAndStart, hregister, hstep, Bool.not_true, Bool.false_eq_true, if_false]
      simpa using allOrNothing_disk.trans hdown
    | false =>
      rw [registerAndStart_free hsession hregister htaken]
      simp only [Bool.true_eq_false, Bool.false_eq_true, false_and, true_and, false_or, not_or,
        Bool.not_eq_false]

lemma spawnSession_refused (h : ¬ Fresh S w d sp) :
    ∃ code, spawnSession S w d sp = (d, .error code) := by
  rw [spawnSession]
  split
  · exact ⟨_, rfl⟩
  · next hget =>
    split
    · exact ⟨_, rfl⟩
    · next hsession =>
      split
      · exact ⟨_, rfl⟩
      · next haget =>
        split
        · exact ⟨_, rfl⟩
        · next hagent =>
          have hblocked : d.disk.has S.ws = true := by
            by_contra hfree
            refine h ⟨by simpa using hget, ?_, by simpa using haget, ?_, by simpa using hfree⟩
            · simpa [State.runOp] using hsession
            · simpa [State.runOp] using hagent
          rw [provision_refused hblocked]
          exact ⟨_, rfl⟩

lemma spawnSession_fresh (h : Fresh S w d sp) : spawnSession S w d sp =
    match provision S w sp.mode d.disk with
    | (disk, false) => ({ d with disk }, .error .badRequest)
    | (disk, true) => registerAndStart S w { d with disk } sp := by
  simp [spawnSession, State.runOp, h.sessionGet, h.session, h.agentGet, h.agent]

lemma spawnSession_iff (htree : Tree d.disk) :
    AllOrNothing S d (spawnSession S w d sp) ↔ ¬ LeavesBehind S w d sp := by
  by_cases hfresh : Fresh S w d sp
  · rw [spawnSession_fresh hfresh, LeavesBehind]
    by_cases hp : Provisions S w sp.mode d.disk
    · rw [provision_ok hfresh.ws hp]
      dsimp only
      rw [registerAndStart_iff hfresh.session (changed_of_has hfresh.ws has_made)
        (unchanged_teardown htree hfresh.ws hp)]
      refine not_congr ⟨fun hcause => ⟨hfresh, Or.inr ⟨hp, hcause⟩⟩, ?_⟩
      rintro ⟨_, ⟨hnot, _⟩ | hleft⟩
      · exact (hnot hp).elim
      · exact hleft.cause
    · rw [provision_fails hfresh.ws hp]
      dsimp only
      rw [allOrNothing_disk, unchanged_failed hfresh.ws]
      refine not_congr ⟨fun hq => ⟨hfresh, Or.inl ⟨hp, hq⟩⟩, ?_⟩
      rintro ⟨_, ⟨_, hq⟩ | hleft⟩
      · exact hq
      · exact (hp hleft.provisions).elim
  · obtain ⟨code, heq⟩ := spawnSession_refused hfresh
    rw [heq]
    exact ⟨fun _ hleft => hfresh hleft.1, fun _ => allOrNothing_same⟩

lemma groupNew_iff {name : String} {tokenHash : Bytes} {now : UInt64} :
    AllOrNothing S d (groupNew w d name tokenHash now) ↔
      ¬ (w.groupCreate = true ∧ d.store.groups.has name = false ∧ w.registerPrime = false) := by
  cases hcreate : w.groupCreate with
  | false =>
    simp only [groupNew, hcreate, Bool.false_eq_true, if_false, false_and, not_false_iff, iff_true]
    exact allOrNothing_same
  | true =>
    cases hhas : d.store.groups.has name with
    | true =>
      have hstep : d.store.groups.groupCreate name now = (d.store.groups, false) :=
        Lib.Table.insertOrIgnore_of_has hhas
      simp only [groupNew, hcreate, hstep, if_true, Bool.true_eq_false, false_and, and_false,
        not_false_iff, iff_true]
      exact allOrNothing_same
    | false =>
      obtain ⟨hrows, hok⟩ := @Lib.Table.insertOrIgnore_of_not_has _ _ _ _ d.store.groups
        (⟨name, now⟩ : GroupRow) hhas
      have hstep : d.store.groups.groupCreate name now =
        ((d.store.groups.groupCreate name now).1, true) := Prod.ext rfl hok
      rw [groupNew, if_pos hcreate, hstep]
      cases hprime : w.registerPrime with
      | true =>
        simp only [if_true, Bool.true_eq_false, and_false, not_false_iff, iff_true]
        intro code hcode
        cases hcode
      | false =>
        simp only [Bool.false_eq_true, if_false, and_self, not_true, iff_false]
        intro h
        have hsame := congrArg (fun t : GroupTable => t.rows.length) (h .internal rfl).groups
        simp only [GroupTable.groupCreate, hrows, List.length_append, List.length_singleton] at hsame
        omega

def allWork : Works :=
  ⟨true, true, true, true, true, true, true, true, .none, true, true, true, true, true, true, true,
    true, true, true, true⟩

def team : Daemon := (groupNew allWork ⟨Requests.initial, ⟨[], []⟩⟩ "team" [1] 7).1

/-- The group has a session already, whose worktree is on the disk beside the user's own files. -/
def busy : Daemon :=
  (spawn (Site.of [] "/home/ann/.wt".toList "team" "web") allWork
    ⟨team.store, ⟨(["home", "ann", "notes"].map String.toList).inits, ["main"]⟩⟩ [1] "team" "web"
    .worktree "" false [3] 8).1

lemma tree_iff : Tree disk ↔ ∀ p ∈ disk.paths, ∀ q ∈ p.inits, q ∈ disk.paths := by
  simp [Tree, List.mem_inits]

end WalkieTalkie.Orchestration.Failure
