import WalkieTalkie.Orchestration.Ownership

/-! An active session has a supervisor that is live, or a task under way that will start one or close
the session. The steps that break this are those that `Keeps` excludes. -/

namespace WalkieTalkie.Orchestration.Status

open Proto Store Lib Lib.Runs Lifecycle

variable {n n' : Name} {k : ℕ}

def ending : Await → Bool
  | .setExited => true
  | .exitNotice => true
  | .forgetChild => true
  | _ => false

def finishing (s : Supervised) : Bool :=
  match s.phase with
  | .running a => ending a
  | .waiting a _ => ending a
  | _ => false

def Closing (n : Name) : Prop := ∃ t ∈ n.kills, closing t.pc = true

def Responsive (agent : Option AgentStatus) : Prop :=
  agent = some .running ∨ agent = some .awaitingInput

def Opens (n : Name) : Prop := ∃ t ∈ n.spawns, (stage t.pc).opening = true

def Unsettled (n : Name) : Prop := ∃ t ∈ n.spawns, (stage t.pc).unsettled = true

def Registering (n : Name) : Prop := ∃ t ∈ n.spawns, stage t.pc = .launched

/-- The statuses agree up to what the tasks under way are going to do. -/
structure Agrees (n : Name) : Prop where
  active : n.rows.session = some .active →
    Opens n ∨ (∃ s ∈ n.supervisors, live s = true) ∨ Closing n
  status : n.rows.session = some .active → Responsive n.rows.agent ∨ Unsettled n ∨
    (∃ s ∈ n.supervisors, live s = true ∧ finishing s = true) ∨ Closing n
  live : ∀ s ∈ n.supervisors, live s = true → n.rows.session = some .active ∨ Registering n
  registered : ∀ s ∈ n.supervisors, Status.live s = true → n.child = some 0 ∨ Registering n
  aborted : n.rows.session = some .active → (∃ s ∈ n.supervisors, s.aborted = true) → Closing n
  orphaned : n.orphans ≠ [] → ∃ s ∈ n.supervisors, s.aborted = true

lemma agrees_fresh {rows : Rows} (h : rows.session ≠ some .active) : Agrees (Name.fresh rows) where
  active := fun ha => (h ha).elim
  status := fun ha => (h ha).elim
  live := by simp [Name.fresh]
  registered := by simp [Name.fresh]
  aborted := fun ha => (h ha).elim
  orphaned := by simp [Name.fresh]

lemma Agrees.setSpawn (h : Agrees n) {t t' : SpawnTask} {rows : Rows}
    (ht : n.spawns[k]? = some t) (hsession : rows.session = n.rows.session)
    (hopening : n.rows.session = some .active → (stage t.pc).opening = true →
      (stage t'.pc).opening = true)
    (hstatus : n.rows.session = some .active → Responsive n.rows.agent ∨
      (stage t.pc).unsettled = true → Responsive rows.agent ∨ (stage t'.pc).unsettled = true)
    (hlaunched : stage t.pc ≠ .launched) : Agrees { n.setSpawn k t' with rows } := by
  have hregistering : Registering n → Registering { n.setSpawn k t' with rows } :=
    fun hr => exists_mem_set ht hr fun hl => (hlaunched hl).elim
  have hnew : (stage t'.pc).unsettled = true → Unsettled { n.setSpawn k t' with rows } :=
    fun hu => ⟨t', mem_set_self ht, hu⟩
  constructor
  · intro ha
    have ha : n.rows.session = some .active := hsession.symm.trans ha
    exact (h.active ha).imp_left fun ho => exists_mem_set ht ho (hopening ha)
  · intro ha
    have ha : n.rows.session = some .active := hsession.symm.trans ha
    rcases h.status ha with hr | hu | hrest
    · exact (hstatus ha (Or.inl hr)).imp_right fun hu => Or.inl (hnew hu)
    · rcases exists_mem_set_or ht hu with hun | hu
      · exact (hstatus ha (Or.inr hun)).imp_right fun hu => Or.inl (hnew hu)
      · exact Or.inr (Or.inl hu)
    · exact Or.inr (Or.inr hrest)
  · intro s hs hl
    rw [hsession]
    exact (h.live s hs hl).imp_right hregistering
  · intro s hs hl
    exact (h.registered s hs hl).imp_right hregistering
  · intro ha
    exact h.aborted (hsession.symm.trans ha)
  · exact h.orphaned

lemma Agrees.onto (h : Agrees n) {t t' : SpawnTask} (ht : n.spawns[k]? = some t)
    (hs : Stage.onto (stage t.pc) (stage t'.pc) = true)
    (hundo : n.rows.session = some .active → stage t.pc = .undoing → stage t'.pc ≠ .over) :
    Agrees (n.setSpawn k t') := by
  refine h.setSpawn ht rfl ?_ ?_ ?_
  · intro ha ho
    refine (Stage.opening_onto hs ho).resolve_right ?_
    exact fun hboth => hundo ha hboth.1 hboth.2
  · intro ha hu
    refine hu.imp_right fun hu => (Stage.unsettled_onto hs hu).resolve_right ?_
    exact fun hboth => hundo ha hboth.1 hboth.2
  · intro hl
    rw [hl] at hs
    cases hs

lemma Agrees.create (h : Agrees n) (hsound : Sound n) {t t' : SpawnTask}
    (ht : n.spawns[k]? = some t) (hs : stage t.pc = .creating) (hs' : stage t'.pc = .starting) :
    Agrees { n.setSpawn k t' with rows := { n.rows with session := some .active } } := by
  have hempty : n.supervisors = [] := by
    rw [← List.length_eq_zero_iff]
    by_contra hlen
    have hno := (hsound.supervised hlen).2 t (List.mem_of_getElem? ht)
    rw [hs] at hno
    cases hno
  have hnone : ∀ s, s ∉ n.supervisors := by simp [hempty]
  constructor
  · exact fun _ => Or.inl ⟨t', mem_set_self ht, by simp [hs', Stage.opening]⟩
  · exact fun _ => Or.inr (Or.inl ⟨t', mem_set_self ht, by simp [hs', Stage.unsettled]⟩)
  · exact fun s hs => (hnone s hs).elim
  · exact fun s hs => (hnone s hs).elim
  · exact fun _ ⟨s, hs, _⟩ => (hnone s hs).elim
  · exact h.orphaned

lemma Agrees.spawnTask (h : Agrees n) {t t' : SpawnTask} {s : Supervised}
    (ht : n.spawns[k]? = some t) (hs : stage t.pc = .started) (hs' : stage t'.pc = .launched)
    (hlive : Status.live s = true) (ha : s.aborted = false) :
    Agrees { n.setSpawn k t' with supervisors := n.supervisors ++ [s] } := by
  have hregistering : Registering { n.setSpawn k t' with supervisors := n.supervisors ++ [s] } :=
    ⟨t', mem_set_self ht, hs'⟩
  constructor
  · exact fun _ => Or.inr (Or.inl ⟨s, by simp, hlive⟩)
  · intro hactive
    rcases h.status hactive with hr | hu | ⟨u, hu, hf⟩ | hc
    · exact Or.inl hr
    · refine Or.inr (Or.inl (exists_mem_set ht hu fun hun => ?_))
      rw [hs] at hun
      cases hun
    · exact Or.inr (Or.inr (Or.inl ⟨u, List.mem_append_left _ hu, hf⟩))
    · exact Or.inr (Or.inr (Or.inr hc))
  · exact fun _ _ _ => Or.inr hregistering
  · exact fun _ _ _ => Or.inr hregistering
  · rintro hactive ⟨u, hu, hab⟩
    rcases List.mem_append.mp hu with hu | hu
    · exact h.aborted hactive ⟨u, hu, hab⟩
    · rw [List.mem_singleton.mp hu, ha] at hab
      cases hab
  · intro ho
    obtain ⟨u, hu, hab⟩ := h.orphaned ho
    exact ⟨u, List.mem_append_left _ hu, hab⟩

lemma Agrees.registerChild (h : Agrees n) {t t' : SpawnTask} {i : ℕ}
    (ht : n.spawns[k]? = some t) (hs : stage t.pc = .launched) (hi : i = 0)
    (hactive : n.rows.session = some .active) :
    Agrees { n.setSpawn k t' with child := some i } := by
  constructor
  · intro ha
    refine (h.active ha).imp_left fun ho => exists_mem_set ht ho fun hop => ?_
    rw [hs] at hop
    cases hop
  · intro ha
    refine (h.status ha).imp_right fun hrest => hrest.imp_left fun hu =>
      exists_mem_set ht hu fun hun => ?_
    rw [hs] at hun
    cases hun
  · exact fun _ _ _ => Or.inl hactive
  · exact fun _ _ _ => Or.inl (congrArg some hi)
  · exact h.aborted
  · exact h.orphaned

lemma Agrees.snoc (h : Agrees n) (t : SpawnTask) : Agrees { n with spawns := n.spawns ++ [t] } := by
  have hlift : ∀ {p : SpawnTask → Prop}, (∃ u ∈ n.spawns, p u) → ∃ u ∈ n.spawns ++ [t], p u :=
    fun ⟨u, hu, hp⟩ => ⟨u, List.mem_append_left _ hu, hp⟩
  constructor
  · exact fun ha => (h.active ha).imp_left hlift
  · exact fun ha => (h.status ha).imp_right fun hrest => hrest.imp_left hlift
  · exact fun s hs hl => (h.live s hs hl).imp_right hlift
  · exact fun s hs hl => (h.registered s hs hl).imp_right hlift
  · exact h.aborted
  · exact h.orphaned

lemma Agrees.withKills (h : Agrees n) {kills : List KillTask}
    (hc : n.rows.session = some .active → Closing n → ∃ t ∈ kills, closing t.pc = true) :
    Agrees { n with kills } := by
  constructor
  · exact fun ha => (h.active ha).imp_right fun hrest => hrest.imp_right (hc ha)
  · exact fun ha => (h.status ha).imp_right fun hrest => hrest.imp_right fun hrest =>
      hrest.imp_right (hc ha)
  · exact h.live
  · exact h.registered
  · exact fun ha hab => hc ha (h.aborted ha hab)
  · exact h.orphaned

lemma Agrees.closing (h : Agrees n) {kills : List KillTask} {supervisors : List Supervised}
    {child : Option ℕ} {agent : Option AgentStatus} (hc : ∃ t ∈ kills, closing t.pc = true)
    (hlive : ∀ s ∈ supervisors, Status.live s = true → s ∈ n.supervisors)
    (hchild : ∀ s ∈ supervisors, Status.live s = true → n.child = some 0 → child = some 0)
    (horphaned : (∃ s ∈ n.supervisors, s.aborted = true) → ∃ s ∈ supervisors, s.aborted = true) :
    Agrees { n with kills, supervisors, child, rows := { n.rows with agent } } := by
  constructor
  · exact fun _ => Or.inr (Or.inr hc)
  · exact fun _ => Or.inr (Or.inr (Or.inr hc))
  · exact fun s hs hl => h.live s (hlive s hs hl) hl
  · exact fun s hs hl => (h.registered s (hlive s hs hl) hl).imp_left (hchild s hs hl)
  · exact fun _ _ => hc
  · exact fun ho => horphaned (h.orphaned ho)

lemma Agrees.close (h : Agrees n) {kills : List KillTask} (hchild : n.child = none) :
    Agrees { n with
      kills, rows := { n.rows with session := n.rows.session.map fun _ => .closed } } := by
  have hno : (n.rows.session.map fun _ => SessionStatus.closed) ≠ some .active := by
    cases n.rows.session <;> simp
  constructor
  · exact fun ha => (hno ha).elim
  · exact fun ha => (hno ha).elim
  · intro s hs hl
    refine Or.inr ((h.registered s hs hl).resolve_left ?_)
    rw [hchild]
    exact Option.some_ne_none 0 ∘ Eq.symm
  · exact h.registered
  · exact fun ha => (hno ha).elim
  · exact h.orphaned

lemma live_iff {s : Supervised} : Status.live s = true ↔ s.phase ≠ .ended ∧ s.aborted = false := by
  simp [Status.live]

lemma Agrees.setPhase (h : Agrees n) {s : Supervised} {phase : Supervisor} {rows : Rows}
    {orphans : List Await} (hs : n.supervisors[k]? = some s)
    (hsession : rows.session = n.rows.session) (hphase : s.phase ≠ .ended)
    (hlive : s.aborted = false → phase ≠ .ended)
    (hstatus : s.aborted = false → Responsive n.rows.agent ∨ finishing s = true →
      Responsive rows.agent ∨ finishing { s with phase } = true)
    (horphans : orphans ≠ [] → n.orphans ≠ [] ∨ s.aborted = true) :
    Agrees { n.setPhase k s phase with rows, orphans } := by
  have hmem : s ∈ n.supervisors := List.mem_of_getElem? hs
  have hback : Status.live { s with phase } = true → Status.live s = true :=
    fun hl => live_iff.mpr ⟨hphase, (live_iff.mp hl).2⟩
  constructor
  · intro ha
    have ha : n.rows.session = some .active := hsession.symm.trans ha
    refine (h.active ha).imp_right fun hrest => hrest.imp_left fun hl =>
      exists_mem_set hs hl fun hl => live_iff.mpr ?_
    exact ⟨hlive (live_iff.mp hl).2, (live_iff.mp hl).2⟩
  · intro ha
    have ha : n.rows.session = some .active := hsession.symm.trans ha
    cases hab : s.aborted with
    | true => exact Or.inr (Or.inr (Or.inr (h.aborted ha ⟨s, hmem, hab⟩)))
    | false =>
      have hnew : finishing { s with phase } = true → ∃ u ∈ n.supervisors.set k { s with phase },
          Status.live u = true ∧ finishing u = true :=
        fun hf => ⟨_, mem_set_self hs, live_iff.mpr ⟨hlive hab, hab⟩, hf⟩
      rcases h.status ha with hr | hu | hf | hc
      · exact (hstatus hab (Or.inl hr)).imp_right fun hf => Or.inr (Or.inl (hnew hf))
      · exact Or.inr (Or.inl hu)
      · rcases exists_mem_set_or hs hf with ⟨_, hf⟩ | hf
        · exact (hstatus hab (Or.inr hf)).imp_right fun hf => Or.inr (Or.inl (hnew hf))
        · exact Or.inr (Or.inr (Or.inl hf))
      · exact Or.inr (Or.inr (Or.inr hc))
  · intro u hu hl
    rw [hsession]
    exact forall_mem_set h.live (fun hl => h.live s hmem (hback hl)) u hu hl
  · exact forall_mem_set h.registered fun hl => h.registered s hmem (hback hl)
  · rintro ha ⟨u, hu, hab⟩
    refine h.aborted (hsession.symm.trans ha) ?_
    rcases List.mem_or_eq_of_mem_set hu with hu | rfl
    · exact ⟨u, hu, hab⟩
    · exact ⟨s, hmem, hab⟩
  · intro ho
    rcases horphans ho with ho | hab
    · exact exists_mem_set hs (h.orphaned ho) id
    · exact ⟨_, mem_set_self hs, hab⟩

lemma Agrees.ended (h : Agrees n) (hsingle : n.supervisors.length ≤ 1) {s : Supervised}
    (hs : n.supervisors[k]? = some s)
    (hkeeps : s.aborted = false → n.rows.session ≠ some .active) :
    Agrees { n.setPhase k s .ended with child := none } := by
  have hclosing : n.rows.session = some .active → Closing n := by
    intro ha
    refine h.aborted ha ⟨s, List.mem_of_getElem? hs, ?_⟩
    cases hab : s.aborted with
    | true => rfl
    | false => exact (hkeeps hab ha).elim
  have hdead : ∀ u ∈ n.supervisors.set k { s with phase := .ended }, ¬ Status.live u = true := by
    intro u hu hl
    obtain rfl := eq_of_mem_set hsingle hs hu
    exact (live_iff.mp hl).1 rfl
  constructor
  · exact fun ha => Or.inr (Or.inr (hclosing ha))
  · exact fun ha => Or.inr (Or.inr (Or.inr (hclosing ha)))
  · exact fun u hu hl => (hdead u hu hl).elim
  · exact fun u hu hl => (hdead u hu hl).elim
  · exact fun ha _ => hclosing ha
  · exact fun ho => exists_mem_set hs (h.orphaned ho) id

lemma Agrees.orphan (h : Agrees n) (ho : n.orphans ≠ []) {rows : Rows} {orphans : List Await}
    (hsession : rows.session = n.rows.session) : Agrees { n with rows, orphans } := by
  have hab := h.orphaned ho
  have hclosing : rows.session = some .active → Closing n :=
    fun ha => h.aborted (hsession.symm.trans ha) hab
  constructor
  · exact fun ha => Or.inr (Or.inr (hclosing ha))
  · exact fun ha => Or.inr (Or.inr (Or.inr (hclosing ha)))
  · exact fun s hs hl => hsession ▸ h.live s hs hl
  · exact h.registered
  · exact fun ha _ => hclosing ha
  · exact fun _ => hab

lemma abortChild_cases (hsingle : n.supervisors.length ≤ 1) :
    (n.abortChild = n.supervisors ∧ (n.child = some 0 → n.supervisors = [])) ∨
      ∃ s, n.supervisors = [s] ∧ n.abortChild = [s.abort] := by
  rw [Name.abortChild]
  cases hsup : n.supervisors with
  | nil => exact Or.inl ⟨by split <;> simp, fun _ => rfl⟩
  | cons s rest =>
    obtain rfl : rest = [] := by
      rw [hsup, List.length_cons] at hsingle
      exact List.length_eq_zero_iff.mp (by omega)
    cases hchild : n.child with
    | none => exact Or.inl ⟨rfl, fun h => by cases h⟩
    | some i =>
      cases i with
      | zero => exact Or.inr ⟨s, rfl, rfl⟩
      | succ i => exact Or.inl ⟨by simp, fun h => by cases h⟩

lemma Agrees.killChild (h : Agrees n) (hsingle : n.supervisors.length ≤ 1) {t : KillTask}
    (ht : n.kills[k]? = some t) :
    Agrees { n.setKill k { t with pc := .setExited } with
      child := none, supervisors := n.abortChild } := by
  have hnot : ∀ s : Supervised, ¬ Status.live s.abort = true :=
    fun s hl => by cases (live_iff.mp hl).2
  refine h.closing ⟨_, mem_set_self ht, rfl⟩ ?_ ?_ ?_
  · intro s hs hl
    rcases abortChild_cases hsingle with ⟨heq, _⟩ | ⟨u, _, heq⟩
    · rwa [heq] at hs
    · rw [heq, List.mem_singleton] at hs
      exact (hnot u (hs ▸ hl)).elim
  · intro s hs hl hchild
    rcases abortChild_cases hsingle with ⟨heq, hempty⟩ | ⟨u, _, heq⟩
    · rw [heq, hempty hchild] at hs
      cases hs
    · rw [heq, List.mem_singleton] at hs
      exact (hnot u (hs ▸ hl)).elim
  · rintro ⟨s, hs, hab⟩
    rcases abortChild_cases hsingle with ⟨heq, _⟩ | ⟨u, _, heq⟩
    · exact ⟨s, heq ▸ hs, hab⟩
    · exact ⟨u.abort, by simp [heq], rfl⟩

lemma runAwait_responsive {a : Await} {rows : Rows} (ha : ending a = false)
    (h : Responsive rows.agent) : Responsive (runAwait a rows).agent := by
  obtain ⟨status, hsome⟩ : ∃ status, rows.agent = some status :=
    h.elim (fun h => ⟨_, h⟩) fun h => ⟨_, h⟩
  cases a with
  | setRunning left timer => exact Or.inl (by simp [runAwait, Await.job, Op.execute, hsome])
  | setAwaiting => exact Or.inr (by simp [runAwait, Await.job, Op.execute, hsome])
  | setExited => cases ha
  | _ => exact h

lemma ending_leadsTo {a b : Await} (h : a.leadsTo b = true) (ha : ending a = true) :
    ending b = true := by
  cases a with
  | setExited => cases b <;> first | rfl | exact absurd h Bool.false_ne_true
  | exitNotice => cases b <;> first | rfl | exact absurd h Bool.false_ne_true
  | forgetChild => exact absurd h Bool.false_ne_true
  | _ => cases ha

lemma Agrees.step {a : Act} (h : Agrees n) (hsound : Sound n) (hkeeps : Keeps n a)
    (hm : Moves n a n') : Agrees n' := by
  cases hm with
  | spawn request => exact h.snoc _
  | @onto k t outcome pc ht hs hu =>
    refine h.onto ht hs fun ha hundo hover => ?_
    exact (hkeeps t ht).2 (hu hundo hover) ha
  | fails ht hs hu =>
    refine h.onto ht hs fun _ hundo hover => ?_
    rw [hu hundo] at hover
    cases hover
  | register ht hs hs' hnone =>
    have hno : n.rows.session ≠ some .active := by
      intro ha
      have hsome := hsound.agent (by simp [ha])
      rw [hnone] at hsome
      cases hsome
    exact h.setSpawn ht rfl (fun ha => (hno ha).elim) (fun ha => (hno ha).elim) (by simp [hs])
  | create ht hs hs' _ => exact h.create hsound ht hs hs'
  | refused ht hs hn =>
    have hnone := hsound.creating _ (List.mem_of_getElem? ht) hs
    exact (hn (by simpa using hnone)).elim
  | @setRunning k t outcome pc ht hs hs' =>
    have hsome : n.rows.agent.isSome = true := by
      apply hsound.owned t (List.mem_of_getElem? ht)
      rw [hs]
      rfl
    obtain ⟨status, hagent⟩ := Option.isSome_iff_exists.mp hsome
    refine h.setSpawn ht rfl ?_ ?_ (by simp [hs])
    · exact fun _ _ => by simp [hs', Stage.opening]
    · exact fun _ _ => Or.inl (Or.inl (by simp [hagent]))
  | @setExited k t outcome pc ht hs =>
    obtain ⟨hs, hs'⟩ := hs.resolve_left (hsound.accepted t (List.mem_of_getElem? ht))
    refine h.setSpawn ht rfl ?_ ?_ (by simp [hs])
    · exact fun _ _ => by simp [hs', Stage.opening]
    · exact fun _ _ => Or.inr (by simp [hs', Stage.unsettled])
  | spawnTask ht hs hs' => exact h.spawnTask ht hs hs' rfl rfl
  | @registerChild k t outcome pc ht hpc hs' =>
    have hs : stage t.pc = .launched := by
      rw [hpc]
      rfl
    exact h.registerChild ht hs (hsound.launched t (List.mem_of_getElem? ht) hs)
      ((hkeeps t ht).1 hpc)
  | kill kind => exact h.withKills fun _ ⟨t, ht, hc⟩ => ⟨t, List.mem_append_left _ ht, hc⟩
  | killOnto ht hc =>
    refine h.withKills fun ha hclosing => exists_mem_set ht hclosing fun hcl => ?_
    refine (hc hcl).resolve_right ?_
    rw [ha]
    exact Option.some_ne_none _
  | @killFails k t pc ht hc =>
    refine h.withKills fun ha hclosing => exists_mem_set ht hclosing fun hcl => ?_
    exact (hc hcl).resolve_right fun hpc => hkeeps t ht hpc ha
  | killChild ht => exact h.killChild hsound.single ht
  | killExited ht hc =>
    exact h.closing ⟨_, mem_set_self ht, hc⟩ (fun _ hs _ => hs) (fun _ _ _ hc => hc) id
  | @close k t pc ht hpc => exact h.close (hkeeps t ht hpc)
  | @ended k s hs hp => exact h.ended hsound.single hs fun hab => hkeeps s hs hp hab
  | @reach k s a answered hs hp =>
    refine h.setPhase hs rfl (by simp [hp]) (by simp) (fun _ hr => ?_) Or.inl
    simpa [finishing, hp] using hr
  | @execute k s a works hs hp =>
    refine h.setPhase hs ?_ (by simp [hp]) (by simp) (fun _ hr => ?_) Or.inl
    · cases works <;> simp [runAwait_session]
    · cases hend : ending a with
      | true => exact Or.inr (by simp [finishing, hend])
      | false =>
        have hresp : Responsive n.rows.agent :=
          hr.resolve_right (by simp [finishing, hp, hend])
        cases works with
        | true => exact Or.inl (runAwait_responsive hend hresp)
        | false => exact Or.inl hresp
  | @resume k s a next hs hp hl =>
    refine h.setPhase hs rfl (by simp [hp]) (by simp) (fun _ hr => ?_) Or.inl
    refine hr.imp_right fun hf => ending_leadsTo hl ?_
    simpa [finishing, hp] using hf
  | @drop k s orphans hs hp ha =>
    have hno : s.aborted ≠ false := by simp [ha]
    exact h.setPhase hs rfl hp (fun hab => (hno hab).elim) (fun hab => (hno hab).elim)
      fun _ => Or.inr ha
  | @orphan a rest works ho =>
    refine h.orphan (by simp [ho]) ?_
    cases works <;> simp [runAwait_session]

lemma Sound.registerPrime (h : Sound n) : Sound { n with rows := registerPrime n.rows } where
  agent := fun _ => rfl
  owned := fun _ _ _ => rfl
  one := h.one
  creating := h.creating
  opened := h.opened
  accepted := h.accepted
  supervised := h.supervised
  single := h.single
  launched := h.launched

lemma Agrees.registerPrime (h : Agrees n) (hsound : Sound n) :
    Agrees { n with rows := registerPrime n.rows } where
  active := h.active
  status := by
    intro ha
    have hactive : n.rows.session = some .active := ha
    obtain ⟨status, hagent⟩ := Option.isSome_iff_exists.mp (hsound.agent (by simp [hactive]))
    have hsame : (Status.registerPrime n.rows).agent = n.rows.agent := by
      simp [Status.registerPrime, hagent]
    exact (h.status hactive).imp_left fun hr => hsame ▸ hr
  live := h.live
  registered := h.registered
  aborted := h.aborted
  orphaned := h.orphaned

structure Invariant (d : Daemon) : Prop where
  sound : ∀ k, Sound (d.names k)
  agrees : d.up = true → ∀ k, Agrees (d.names k)

lemma Invariant.update {d : Daemon} {k : String × String} {n : Name} (h : Invariant d)
    (hsound : Sound n) (hagrees : Agrees n) :
    Invariant { d with names := Function.update d.names k n } := by
  constructor
  · intro j
    by_cases hj : j = k
    · subst hj
      simpa using hsound
    · simpa [hj] using h.sound j
  · intro hup j
    by_cases hj : j = k
    · subst hj
      simpa using hagrees
    · simpa [hj] using h.agrees hup j

lemma reconcileRows_session {result : Reconciled} {rows : Rows}
    (h : result = .complete ∨ rows.session ≠ some .active) :
    (reconcileRows result rows).session ≠ some .active := by
  by_cases hr : result = .complete
  · cases hs : rows.session <;> simp [reconcileRows, hr, hs]
  · simpa [reconcileRows, hr] using h.resolve_left hr

lemma reconcileRows_sound {result : Reconciled} {rows : Rows}
    (h : rows.session.isSome = true → rows.agent.isSome = true) :
    (reconcileRows result rows).session.isSome = true →
      (reconcileRows result rows).agent.isSome = true := by
  cases result <;> simpa [reconcileRows] using h

lemma invariant_step {d d' : Daemon} {l : Label} (h : Invariant d) (hkeeps : KeepsStatus d l)
    (hstep : step d l = some d') : Invariant d' := by
  cases l with
  | registerPrime group =>
    simp only [step] at hstep
    split at hstep
    · next hup =>
      obtain rfl := Option.some.inj hstep
      have hsound := h.sound (group, "prime")
      exact h.update hsound.registerPrime ((h.agrees hup _).registerPrime hsound)
    · cases hstep
  | act group name act =>
    simp only [step] at hstep
    split at hstep
    · next hup =>
      obtain ⟨n, hn, rfl⟩ := Option.map_eq_some_iff.mp hstep
      have hsound := h.sound (group, name)
      have hm := step_moves hn
      exact h.update (hsound.step hm) ((h.agrees hup _).step hsound hkeeps hm)
    · cases hstep
  | restart =>
    obtain rfl := Option.some.inj hstep
    exact ⟨fun k => sound_fresh (h.sound k).agent, fun hup => by cases hup⟩
  | reconcile result =>
    simp only [step] at hstep
    split at hstep
    · cases hstep
    · obtain rfl := Option.some.inj hstep
      refine ⟨fun k => sound_fresh (reconcileRows_sound (h.sound k).agent), fun _ k => ?_⟩
      exact agrees_fresh (reconcileRows_session (hkeeps.imp_right fun hno => hno k))

lemma invariant_initial : Invariant initial :=
  ⟨fun _ => sound_fresh (fun h => by cases h), fun h => by cases h⟩

structure StatusesAgree (n : Name) : Prop where
  active_iff_live : n.rows.session = some .active ↔ ∃ s ∈ n.supervisors, live s = true
  active_responsive : n.rows.session = some .active →
    n.rows.agent = some .running ∨ n.rows.agent = some .awaitingInput
  exited_closed : n.rows.agent = some .exited → ∀ status, n.rows.session = some status →
    status = .closed

lemma Settled.not_closing (h : Settled n) : ¬ Closing n := by
  rintro ⟨t, ht, hc⟩
  obtain ⟨answer, hpc⟩ := h.kills t ht
  rw [hpc] at hc
  cases hc

lemma Settled.stage (h : Settled n) {t : SpawnTask} (ht : t ∈ n.spawns) :
    Status.stage t.pc = .over := by
  obtain ⟨answer, hpc⟩ := h.spawns t ht
  rw [hpc]
  rfl

lemma Settled.not_finishing (h : Settled n) {s : Supervised} (hs : s ∈ n.supervisors) :
    finishing s = false := by
  rcases h.supervisors s hs with hp | ⟨hp, _⟩
  · simp [finishing, hp]
  · simp [finishing, hp, ending]

lemma Agrees.settled (h : Agrees n) (hs : Settled n) : StatusesAgree n := by
  have hactive : n.rows.session = some .active → Responsive n.rows.agent := by
    intro ha
    rcases h.status ha with hr | ⟨t, ht, hu⟩ | ⟨s, hmem, _, hf⟩ | hc
    · exact hr
    · rw [hs.stage ht] at hu
      cases hu
    · rw [hs.not_finishing hmem] at hf
      cases hf
    · exact (hs.not_closing hc).elim
  refine ⟨⟨fun ha => ?_, ?_⟩, hactive, ?_⟩
  · rcases h.active ha with ⟨t, ht, ho⟩ | hl | hc
    · rw [hs.stage ht] at ho
      cases ho
    · exact hl
    · exact (hs.not_closing hc).elim
  · rintro ⟨s, hmem, hl⟩
    refine (h.live s hmem hl).resolve_right ?_
    rintro ⟨t, ht, hst⟩
    rw [hs.stage ht] at hst
    cases hst
  · intro hexited status hstatus
    cases status with
    | closed => rfl
    | active =>
      rcases hactive hstatus with hr | hr
      · rw [hexited] at hr
        cases hr
      · rw [hexited] at hr
        cases hr

theorem statuses_agree_when_no_session_is_left {labels : List Label} {d : Daemon}
    (hrun : Run (Guarded KeepsStatus (Fires step)) initial labels d) (hq : Quiescent d)
    (k : String × String) : StatusesAgree (d.names k) := by
  have hinv : Invariant d :=
    hrun.invariant (fun _ _ _ h hstep => invariant_step h hstep.1 hstep.2) invariant_initial
  exact (hinv.agrees hq.up k).settled (hq.settled k)

lemma run_acts {c : Name → Act → Prop} {C : Daemon → Label → Prop} {group name : String}
    (hc : ∀ d a, c (d.names (group, name)) a → C d (.act group name a)) {acts : List Act}
    (h : Run (Guarded c (Fires Name.step)) n acts n') :
    ∀ {d : Daemon}, d.up = true → d.names (group, name) = n →
      Run (Guarded C (Fires step)) d (acts.map (Label.act group name))
        { d with names := Function.update d.names (group, name) n' } := by
  induction h with
  | nil =>
    intro d _ hn
    subst hn
    simpa using Run.nil
  | @cons n m n' a acts hs _ ih =>
    intro d hup hn
    subst hn
    have hstep : step d (.act group name a) =
        some { d with names := Function.update d.names (group, name) m } := by
      simp [step, hup, show (d.names (group, name)).step a = some m from hs.2]
    have hrest := @ih { d with names := Function.update d.names (group, name) m } hup (by simp)
    refine .cons ⟨hc d a hs.1, hstep⟩ ?_
    simpa using hrest

def spawnActs : List Act :=
  [.spawn ⟨.new, false⟩] ++
    [true, true, false, true, true, true, true, true, true, true, true].map (.spawnStep 0) ++
    [.reach 0, .execute 0 true, .resume 0 .select, .reach 0]

def parked : Name where
  rows := ⟨some .running, some .active⟩
  spawns := [⟨⟨.new, false⟩, .done (.ok ()), 0⟩]
  kills := []
  supervisors := [⟨.waiting .select true, false⟩]
  child := some 0
  orphans := []

def exitActs : List Act :=
  [.resume 0 .setExited, .reach 0, .execute 0 true, .resume 0 .exitNotice, .reach 0,
    .execute 0 true, .resume 0 .forgetChild, .reach 0]

def exited : Name :=
  { parked with
    rows := ⟨some .exited, some .active⟩, supervisors := [⟨.ended, false⟩], child := none }

def started (n : Name) : Daemon :=
  ⟨true, Function.update (fun _ => Name.fresh ⟨none, none⟩) ("team", "api") n⟩

lemma quiescent_started (h : Settled n) : Quiescent (started n) := by
  refine ⟨rfl, fun k => ?_⟩
  by_cases hk : k = ("team", "api")
  · subst hk
    simpa [started] using h
  · have hfresh : (started n).names k = Name.fresh ⟨none, none⟩ := by simp [started, hk]
    rw [hfresh]
    constructor <;> simp [Name.fresh]

lemma run_started {c : Name → Act → Prop} {C : Daemon → Label → Prop} {acts : List Act}
    (hc : ∀ d a, c (d.names ("team", "api")) a → C d (.act "team" "api" a))
    (hr : C initial (.reconcile .complete))
    (h : Run (Guarded c (Fires Name.step)) (Name.fresh ⟨none, none⟩) acts n) :
    Run (Guarded C (Fires step)) initial
      (.reconcile .complete :: acts.map (Label.act "team" "api")) (started n) := by
  have hstep : step initial (.reconcile .complete) =
      some ⟨true, fun _ => Name.fresh ⟨none, none⟩⟩ := rfl
  exact .cons ⟨hr, hstep⟩ (run_acts hc h rfl rfl)

theorem statuses_agree_when_no_session_is_left_parked : ∃ labels,
    Run (Guarded KeepsStatus (Fires step)) initial labels (started parked) ∧
      Quiescent (started parked) ∧
      ((started parked).names ("team", "api")).rows.session = some .active ∧
      StatusesAgree ((started parked).names ("team", "api")) := by
  have hacts : execute (restrict Keeps Name.step) (Name.fresh ⟨none, none⟩) spawnActs =
      some parked := by decide +kernel
  have hrun := run_started (C := KeepsStatus) (fun _ _ h => h) (Or.inl rfl)
    (execute_restrict_run hacts)
  have hq : Quiescent (started parked) := by
    apply quiescent_started
    constructor <;> simp [parked]
  exact ⟨_, hrun, hq, rfl, statuses_agree_when_no_session_is_left hrun hq _⟩

/-- A harness that exits by itself leaves its session active: `finish` sets the agent's status only. -/
theorem natural_exit_leaves_session_active : ∃ labels,
    Run (Fires step) initial labels (started exited) ∧ Quiescent (started exited) ∧
      ((started exited).names ("team", "api")).rows.session = some .active ∧
      ((started exited).names ("team", "api")).rows.agent = some .exited ∧
      ¬ StatusesAgree ((started exited).names ("team", "api")) := by
  have hacts : execute Name.step (Name.fresh ⟨none, none⟩) (spawnActs ++ exitActs) =
      some exited := by decide +kernel
  have hrun := run_started (c := fun _ _ => True) (C := fun _ _ => True) (fun _ _ h => h) trivial
    ((execute_run hacts).guard fun _ _ => trivial)
  have hq : Quiescent (started exited) := by
    apply quiescent_started
    constructor <;> simp [exited, parked]
  refine ⟨_, hrun.forget, hq, rfl, rfl, fun h => ?_⟩
  cases h.exited_closed rfl .active rfl

end WalkieTalkie.Orchestration.Status
