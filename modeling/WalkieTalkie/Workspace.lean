import WalkieTalkie.Lib.Paths
import WalkieTalkie.Proto

/-! Session workspaces: their paths, branches and log files, and what provisioning and tearing them
down does to the disk. A disk holds the places that exist and the branches of the base repository;
what git answers is given. -/

namespace WalkieTalkie.Workspace

open Proto Lib.Paths

def sessionsDir (home : PathBuf) : PathBuf := join home "sessions".toList

def logsDir (home : PathBuf) : PathBuf := join home "logs".toList

def sessionDir (home : PathBuf) (group session : String) : PathBuf :=
  join (join (sessionsDir home) group.toList) session.toList

def branchName (group session : String) : String := "wt/" ++ group ++ "/" ++ session

def logName (group session : String) : PathBuf :=
  ("harness-" ++ group ++ "-" ++ session ++ ".log").toList

def stderrLog (home : PathBuf) (group session : String) : PathBuf :=
  join (logsDir home) (logName group session)

structure Disk where
  paths : List Place
  branches : List String

structure Git where
  isRepo : Bool
  worktreeAdd : Except String Unit
  worktreeRemove : Bool

structure Provisioned where
  path : PathBuf
  branch : Option String

namespace Disk

def has (disk : Disk) (p : Place) : Bool := p ∈ disk.paths

def createDirAll (disk : Disk) (p : Place) : Disk :=
  { disk with paths := disk.paths ++ p.inits }

def removeDirAll (disk : Disk) (p : Place) : Disk :=
  { disk with paths := disk.paths.filter fun q => !p.isPrefixOf q }

def branchDelete (disk : Disk) (branch : String) : Disk :=
  { disk with branches := disk.branches.filter fun b => b ≠ branch }

def worktreeAdd (disk : Disk) (p : Place) (branch : String) : Disk :=
  { disk.createDirAll p with branches := disk.branches ++ [branch] }

def provisionAt (disk : Disk) (cwd : Place) (ws : PathBuf) (branch baseDir : String) (mode : FsMode)
    (git : Git) : Except String (Disk × Provisioned) :=
  if disk.has (resolve cwd ws) then
    .error ("workspace path already exists: " ++ String.ofList ws)
  else
    let disk := (parent cwd ws).elim disk disk.createDirAll
    match mode with
    | .worktree =>
      if git.isRepo then
        match git.worktreeAdd with
        | .ok () => .ok (disk.worktreeAdd (resolve cwd ws) branch, ⟨ws, some branch⟩)
        | .error stderr => .error ("git worktree add failed: " ++ stderr)
      else
        .error ("--worktree requires a git repository at " ++ baseDir ++
          " (use --new for a fresh folder)")
    | .new => .ok (disk.createDirAll (resolve cwd ws), ⟨ws, none⟩)

def provision (disk : Disk) (cwd : Place) (home : PathBuf) (group session baseDir : String)
    (mode : FsMode) (git : Git) : Except String (Disk × Provisioned) :=
  disk.provisionAt cwd (sessionDir home group session) (branchName group session) baseDir mode git

def teardown (disk : Disk) (ws : Place) (base : Bool) (mode : FsMode) (branch : Option String)
    (discard : Bool) (git : Git) : Disk :=
  match mode with
  | .worktree =>
    let pruned := if base && git.worktreeRemove then disk.removeDirAll ws else disk
    let disk := if base && discard then branch.elim pruned pruned.branchDelete else pruned
    if discard && disk.has ws then disk.removeDirAll ws else disk
  | .new => if discard && disk.has ws then disk.removeDirAll ws else disk

lemma mem_removeDirAll {disk : Disk} {p q : Place} :
    q ∈ (disk.removeDirAll p).paths ↔ q ∈ disk.paths ∧ ¬ p <+: q := by
  simp [removeDirAll, ← List.isPrefixOf_iff_prefix]

lemma mem_teardown {disk : Disk} {ws f : Place} (hf : f ∈ disk.paths) (hout : ¬ ws <+: f)
    (base : Bool) (mode : FsMode) (branch : Option String) (discard : Bool) (git : Git) :
    f ∈ (disk.teardown ws base mode branch discard git).paths := by
  have hkeep : ∀ d : Disk, f ∈ d.paths → ∀ c : Bool,
      f ∈ (if c then d.removeDirAll ws else d).paths := by
    intro d hd c
    cases c with
    | false => exact hd
    | true => exact mem_removeDirAll.mpr ⟨hd, hout⟩
  cases mode with
  | new => exact hkeep disk hf _
  | worktree =>
    refine hkeep _ ?_ _
    have hpruned := hkeep disk hf (base && git.worktreeRemove)
    split
    · cases branch with
      | none => exact hpruned
      | some b => exact hpruned
    · exact hpruned

end Disk

section

variable (cwd : Place) (home : PathBuf)

def sessionsPlace : Place := resolve cwd (sessionsDir home)

def groupPlace (group : String) : Place := resolve cwd (join (sessionsDir home) group.toList)

def workspace (group session : String) : Place := resolve cwd (sessionDir home group session)

/-- Discarding the first session keeps the files of the second and all files outside the sessions
directory. -/
def DiscardKeeps (group session group' session' : String) : Prop :=
  ∀ (disk : Disk) (base : Bool) (mode : FsMode) (branch : Option String) (git : Git),
    ∀ f ∈ disk.paths, workspace cwd home group' session' <+: f ∨ ¬ sessionsPlace cwd home <+: f →
      f ∈ (disk.teardown (workspace cwd home group session) base mode branch true git).paths

structure Isolated (group session group' session' : String) : Prop where
  different : workspace cwd home group session ≠ workspace cwd home group' session'
  notAbove : ¬ workspace cwd home group session <+: workspace cwd home group' session'
  notBelow : ¬ workspace cwd home group' session' <+: workspace cwd home group session
  inside : groupPlace cwd home group <+: workspace cwd home group session ∧
    groupPlace cwd home group ≠ workspace cwd home group session
  inside' : groupPlace cwd home group' <+: workspace cwd home group' session' ∧
    groupPlace cwd home group' ≠ workspace cwd home group' session'
  branches : branchName group session ≠ branchName group' session'
  logs : resolve cwd (stderrLog home group session) ≠ resolve cwd (stderrLog home group' session')
  discard : DiscardKeeps cwd home group session group' session'
  discard' : DiscardKeeps cwd home group' session' group session

end

variable {cwd : Place} {home : PathBuf} {group session group' session' : String}
  {dg ds dg' ds' : List Name}

lemma groupPlace_eq (hg : descend group.toList = some dg) :
    groupPlace cwd home group = sessionsPlace cwd home ++ dg :=
  resolve_join_of_descend cwd _ hg

lemma workspace_eq (hg : descend group.toList = some dg) (hs : descend session.toList = some ds) :
    workspace cwd home group session = sessionsPlace cwd home ++ (dg ++ ds) := by
  rw [workspace, sessionDir, resolve_join_of_descend cwd _ hs, resolve_join_of_descend cwd _ hg,
    List.append_assoc]
  rfl

lemma descends_of_branch (hg : descend group.toList = some dg)
    (hs : descend session.toList = some ds) :
    descendFrom [] (segments (group.toList ++ '/' :: session.toList)) = some (dg ++ ds) := by
  rw [descend] at hg hs
  split at hg
  · cases hg
  · split at hs
    · cases hs
    · rw [segments_append_cons, descendFrom_append hg]
      have hbase := descendFrom_base dg hs
      rwa [List.append_nil] at hbase

lemma branch_ne (hg : descend group.toList = some dg) (hs : descend session.toList = some ds)
    (hg' : descend group'.toList = some dg') (hs' : descend session'.toList = some ds')
    (hne : dg ++ ds ≠ dg' ++ ds') : branchName group session ≠ branchName group' session' := by
  intro heq
  have hlist := congrArg String.toList heq
  simp only [branchName, String.toList_append, List.append_assoc] at hlist
  have htail : group.toList ++ '/' :: session.toList = group'.toList ++ '/' :: session'.toList :=
    List.append_cancel_left hlist
  have hd := descends_of_branch hg hs
  rw [htail, descends_of_branch hg' hs'] at hd
  exact hne (Option.some.inj hd).symm

lemma logName_toList : logName group session = "harness-".toList ++ (group.toList ++
    ("-".toList ++ (session.toList ++ ".log".toList))) := by
  simp only [logName, String.toList_append, List.append_assoc]

lemma logName_inj : logName group session = logName group' session' ↔
    group ++ "-" ++ session = group' ++ "-" ++ session' := by
  rw [logName_toList, logName_toList, List.append_cancel_left_eq, ← String.toList_inj]
  simp only [String.toList_append, ← List.append_assoc, List.append_cancel_right_eq]

/-- The extension keeps the last name of the session from being one that climbs. -/
lemma descendFrom_logTail (hs : descend session.toList = some ds) : ∃ z zs,
    segments (session.toList ++ ".log".toList) = z :: zs ∧
      ∀ acc, acc ≠ [] → ∃ d, descendFrom acc zs = some d := by
  have hext : segments ".log".toList = [".log".toList] := List.splitOn_eq_singleton (by decide)
  have hproper : ∀ a : Name, proper (a ++ ".log".toList) = true := fun a =>
    proper_of_mem (c := 'l') (List.mem_append_right _ (by decide)) (by decide)
  have hsome := descend_some hs
  obtain ⟨n, ns, hsegs⟩ := List.exists_cons_of_ne_nil (List.splitOn_ne_nil '/' session.toList)
  change segments session.toList = n :: ns at hsegs
  rw [hsegs] at hsome
  rw [segments_append, hsegs, hext]
  cases ns with
  | nil => exact ⟨_, _, rfl, fun acc _ => ⟨acc, rfl⟩⟩
  | cons m ns =>
    refine ⟨_, _, rfl, fun acc hacc => ?_⟩
    obtain ⟨d, hd⟩ := descendFrom_tail hsome hacc
    exact descendFrom_glue hd (by simp) hproper fun acc' _ => ⟨acc', rfl⟩

lemma descend_logName (hg : descend group.toList = some dg) (hs : descend session.toList = some ds) :
    ∃ d, descend (logName group session) = some d := by
  have hproper : ∀ z a : Name, proper (a ++ ("-".toList ++ z)) = true := fun z a =>
    proper_of_mem (c := '-') (List.mem_append_right _ List.mem_cons_self) (by decide)
  have hdash : segments "-".toList = ["-".toList] := List.splitOn_eq_singleton (by decide)
  have hprefix : segments "harness-".toList = ["harness-".toList] :=
    List.splitOn_eq_singleton (by decide)
  obtain ⟨z, zs, hz, htail⟩ := descendFrom_logTail hs
  have hbody : ∃ d, descendFrom [] (segments (group.toList ++ ("-".toList ++
      (session.toList ++ ".log".toList)))) = some d := by
    rw [segments_append, segments_append (p := "-".toList), hdash, hz]
    exact descendFrom_glue (descend_some hg) (List.splitOn_ne_nil _ _) (hproper z) htail
  obtain ⟨d, hd⟩ := hbody
  rw [descend_of_relative (by rw [logName_toList]; rfl), logName_toList, segments_append, hprefix]
  obtain ⟨x, xs, hx⟩ := List.exists_cons_of_ne_nil (List.splitOn_ne_nil '/' (group.toList ++
    ("-".toList ++ (session.toList ++ ".log".toList))))
  rw [segments, hx] at hd ⊢
  have hfirst : proper ("harness-".toList ++ x) = true :=
    proper_of_mem (c := 'h') (List.mem_append_left _ (by decide)) (by decide)
  rw [show glue ["harness-".toList] (x :: xs) = ("harness-".toList ++ x) :: xs from rfl,
    descendFrom_cons, down_proper hfirst, Option.bind_some]
  exact descendFrom_tail hd (by simp)

lemma logs_eq_iff (hg : descend group.toList = some dg) (hs : descend session.toList = some ds)
    (hg' : descend group'.toList = some dg') (hs' : descend session'.toList = some ds') :
    resolve cwd (stderrLog home group session) = resolve cwd (stderrLog home group' session') ↔
      descend (logName group session) = descend (logName group' session') := by
  obtain ⟨d, hd⟩ := descend_logName hg hs
  obtain ⟨d', hd'⟩ := descend_logName hg' hs'
  rw [stderrLog, stderrLog, resolve_join_of_descend cwd _ hd, resolve_join_of_descend cwd _ hd', hd,
    hd', List.append_cancel_left_eq, Option.some_inj]

lemma discardKeeps (hg : descend group.toList = some dg) (hs : descend session.toList = some ds)
    (habove : ¬ workspace cwd home group session <+: workspace cwd home group' session')
    (hbelow : ¬ workspace cwd home group' session' <+: workspace cwd home group session) :
    DiscardKeeps cwd home group session group' session' := by
  intro disk base mode branch git f hf hkeep
  refine Disk.mem_teardown hf (fun hin => ?_) base mode branch true git
  rcases hkeep with hother | houtside
  · rcases List.prefix_or_prefix_of_prefix hin hother with h | h
    · exact habove h
    · exact hbelow h
  · refine houtside (List.IsPrefix.trans ?_ hin)
    rw [workspace_eq hg hs]
    exact List.prefix_append _ _

theorem isolated_iff (hg : descend group.toList = some dg) (hs : descend session.toList = some ds)
    (hg' : descend group'.toList = some dg') (hs' : descend session'.toList = some ds') :
    Isolated cwd home group session group' session' ↔
      ds ≠ [] ∧ ds' ≠ [] ∧ ¬ dg ++ ds <+: dg' ++ ds' ∧ ¬ dg' ++ ds' <+: dg ++ ds ∧
        descend (logName group session) ≠ descend (logName group' session') := by
  have hlogs := @logs_eq_iff cwd home _ _ _ _ _ _ _ _ hg hs hg' hs'
  have hw : workspace cwd home group session = _ := workspace_eq hg hs
  have hw' : workspace cwd home group' session' = _ := workspace_eq hg' hs'
  have hgp : groupPlace cwd home group = _ := groupPlace_eq hg
  have hgp' : groupPlace cwd home group' = _ := groupPlace_eq hg'
  constructor
  · intro h
    refine ⟨fun hnil => ?_, fun hnil => ?_, fun hp => ?_, fun hp => ?_, fun heq => ?_⟩
    · apply h.inside.2
      rw [hgp, hw, hnil, List.append_nil]
    · apply h.inside'.2
      rw [hgp', hw', hnil, List.append_nil]
    · apply h.notAbove
      rw [hw, hw']
      exact (List.prefix_append_right_inj _).mpr hp
    · apply h.notBelow
      rw [hw, hw']
      exact (List.prefix_append_right_inj _).mpr hp
    · exact h.logs (hlogs.mpr heq)
  · rintro ⟨hds, hds', hp, hp', hlog⟩
    have habove : ¬ workspace cwd home group session <+: workspace cwd home group' session' := by
      rw [hw, hw']
      exact fun h => hp ((List.prefix_append_right_inj _).mp h)
    have hbelow : ¬ workspace cwd home group' session' <+: workspace cwd home group session := by
      rw [hw, hw']
      exact fun h => hp' ((List.prefix_append_right_inj _).mp h)
    exact {
      different := fun heq => habove (heq ▸ List.prefix_refl _)
      notAbove := habove
      notBelow := hbelow
      inside := by
        rw [hgp, hw, ← List.append_assoc]
        exact ⟨List.prefix_append _ _, by simpa using hds⟩
      inside' := by
        rw [hgp', hw', ← List.append_assoc]
        exact ⟨List.prefix_append _ _, by simpa using hds'⟩
      branches := branch_ne hg hs hg' hs' fun heq => hp (heq ▸ List.prefix_refl _)
      logs := fun heq => hlog (hlogs.mp heq)
      discard := discardKeeps hg hs habove hbelow
      discard' := discardKeeps hg' hs' hbelow habove }

example : descend (logName "x" "y-z//w") = descend (logName "x-y" "z/w") := by decide

structure Plain (name : String) : Prop where
  nonempty : name ≠ ""
  noSlash : '/' ∉ name.toList
  notDot : name ≠ "."
  notDotDot : name ≠ ".."

lemma Plain.descend {name : String} (h : Plain name) : descend name.toList = some [name.toList] := by
  apply descend_single h.noSlash
  · have hnil : name.toList ≠ "".toList := fun he => h.nonempty (String.toList_inj.mp he)
    have hdot : name.toList ≠ ".".toList := fun he => h.notDot (String.toList_inj.mp he)
    simp only [skipped, Bool.or_eq_false_iff, decide_eq_false_iff_not]
    exact ⟨hnil, hdot⟩
  · exact fun he => h.notDotDot (String.toList_inj.mp (he.trans rfl))

lemma Plain.descend_logName (hg : Plain group) (hs : Plain session) :
    Lib.Paths.descend (logName group session) = some [logName group session] := by
  have hlen : 2 < (logName group session).length := by
    simp [logName_toList]
  apply descend_single
  · simp [logName_toList, hg.noSlash, hs.noSlash]
  · simp only [skipped, Bool.or_eq_false_iff, decide_eq_false_iff_not]
    refine ⟨fun he => ?_, fun he => ?_⟩ <;> simp [he] at hlen
  · intro he
    simp [he] at hlen

theorem plain_isolated_iff (hg : Plain group) (hs : Plain session) (hg' : Plain group')
    (hs' : Plain session') (hne : (group, session) ≠ (group', session')) :
    Isolated cwd home group session group' session' ↔
      group ++ "-" ++ session ≠ group' ++ "-" ++ session' := by
  have hlists : ¬ ([group.toList] ++ [session.toList] = [group'.toList] ++ [session'.toList]) := by
    intro he
    obtain ⟨hg, hs⟩ := List.cons.inj he
    refine hne (Prod.ext (String.toList_inj.mp hg) (String.toList_inj.mp ?_))
    exact (List.cons.inj hs).1
  have hlogs : Lib.Paths.descend (logName group session) ≠
      Lib.Paths.descend (logName group' session') ↔
        group ++ "-" ++ session ≠ group' ++ "-" ++ session' := by
    rw [hg.descend_logName hs, hg'.descend_logName hs', Ne, Option.some_inj, List.cons.injEq,
      and_iff_left rfl, logName_inj]
  rw [isolated_iff hg.descend hs.descend hg'.descend hs'.descend, hlogs]
  refine ⟨fun h => h.2.2.2.2, fun h => ⟨by simp, by simp, fun hp => ?_, fun hp => ?_, h⟩⟩
  · exact hlists (hp.eq_of_length rfl)
  · exact hlists (hp.eq_of_length rfl).symm

theorem isolated_iff_team :
    Isolated [] "/home/ann/.wt".toList "team" "api" "team" "web" ∧
      logName "team" "api" ≠ logName "team" "web" := by
  refine ⟨?_, by decide⟩
  have hteam : descend "team".toList = some ["team".toList] := by decide
  have hapi : descend "api".toList = some ["api".toList] := by decide
  have hweb : descend "web".toList = some ["web".toList] := by decide
  apply (isolated_iff hteam hapi hteam hweb).mpr
  decide

def emptyDisk : Disk := ⟨[[]], []⟩

theorem nested_workspaces_not_isolated : ∃ first both,
    emptyDisk.provision [] "/home/ann/.wt".toList "team" "api" "/repo" .new ⟨false, .ok (), false⟩ =
      .ok first ∧
    first.1.provision [] "/home/ann/.wt".toList "team" "api/v2" "/repo" .new
      ⟨false, .ok (), false⟩ = .ok both ∧
    workspace [] "/home/ann/.wt".toList "team" "api/v2" ∈ both.1.paths ∧
    workspace [] "/home/ann/.wt".toList "team" "api/v2" ∉
      (both.1.teardown (workspace [] "/home/ann/.wt".toList "team" "api") true .new none true
        ⟨false, .ok (), false⟩).paths ∧
    ¬ Isolated [] "/home/ann/.wt".toList "team" "api" "team" "api/v2" := by
  refine ⟨_, _, rfl, rfl, by decide +kernel, by decide +kernel, fun h => h.notAbove ?_⟩
  decide +kernel

end WalkieTalkie.Workspace
