import WalkieTalkie.Orchestration.Status

/-! One spawn of a name at most gets past the registration of its agent, since the row stays. It is the
only one to create the session, to start a supervisor and to register it. -/

namespace WalkieTalkie.Orchestration.Status

open Proto Store Lib Lifecycle

variable {n n' : Name} {k : ℕ}

namespace Stage

def owner : Stage → Bool
  | .creating => true
  | .starting => true
  | .started => true
  | .launched => true
  | _ => false

def launching : Stage → Bool
  | .creating => true
  | .starting => true
  | .started => true
  | _ => false

def opened : Stage → Bool
  | .starting => true
  | .started => true
  | .launched => true
  | .undoing => true
  | _ => false

def opening : Stage → Bool
  | .starting => true
  | .started => true
  | .undoing => true
  | _ => false

def unsettled : Stage → Bool
  | .starting => true
  | .undoing => true
  | _ => false

structure Follows (s s' : Stage) : Prop where
  owner : s'.owner = true → s.owner = true
  launching : s'.launching = true → s.launching = true
  opened : s'.opened = true → s.opened = true
  creating : s' ≠ .creating
  refused : s' ≠ .refused
  launched : s' ≠ .launched

lemma owner_of_creating {s : Stage} (h : s = .creating) : s.owner = true := by
  subst h
  rfl

lemma owner_of_launching {s : Stage} (h : s.launching = true) : s.owner = true := by
  revert h
  cases s <;> decide

lemma follows_of_onto {s s' : Stage} (h : onto s s' = true) : Follows s s' := by
  constructor <;> revert h <;> cases s <;> cases s' <;> decide

lemma opening_onto {s s' : Stage} (h : onto s s' = true) (ho : s.opening = true) :
    s'.opening = true ∨ (s = .undoing ∧ s' = .over) := by
  revert h ho
  cases s <;> cases s' <;> decide

lemma unsettled_onto {s s' : Stage} (h : onto s s' = true) (hu : s.unsettled = true) :
    s'.unsettled = true ∨ (s = .undoing ∧ s' = .over) := by
  revert h hu
  cases s <;> cases s' <;> decide

lemma follows_started : Follows .starting .started := by
  constructor <;> decide

lemma follows_over (s : Stage) : Follows s .over := by
  constructor <;> cases s <;> decide

end Stage

/-- At most one spawn has registered its agent, and it is the one whose supervisor runs. -/
structure Sound (n : Name) : Prop where
  agent : n.rows.session.isSome = true → n.rows.agent.isSome = true
  owned : ∀ t ∈ n.spawns, (stage t.pc).owner = true → n.rows.agent.isSome = true
  one : AtMostOne (fun t : SpawnTask => (stage t.pc).owner = true) n.spawns
  creating : ∀ t ∈ n.spawns, stage t.pc = .creating → n.rows.session.isSome = false
  opened : ∀ t ∈ n.spawns, (stage t.pc).opened = true → n.rows.session.isSome = true
  accepted : ∀ t ∈ n.spawns, stage t.pc ≠ .refused
  supervised : n.supervisors.length ≠ 0 → n.rows.session.isSome = true ∧
    ∀ t ∈ n.spawns, (stage t.pc).launching = false
  single : n.supervisors.length ≤ 1
  launched : ∀ t ∈ n.spawns, stage t.pc = .launched → t.task = 0

lemma sound_fresh {rows : Rows} (h : rows.session.isSome = true → rows.agent.isSome = true) :
    Sound (Name.fresh rows) where
  agent := h
  owned := by simp [Name.fresh]
  one := by
    intro i j t u hi
    simp [Name.fresh] at hi
  creating := by simp [Name.fresh]
  opened := by simp [Name.fresh]
  accepted := by simp [Name.fresh]
  supervised := by simp [Name.fresh]
  single := by simp [Name.fresh]
  launched := by simp [Name.fresh]

lemma Sound.frame (h : Sound n) (hspawns : n'.spawns = n.spawns)
    (hlen : n'.supervisors.length = n.supervisors.length)
    (hagent : n'.rows.agent.isSome = n.rows.agent.isSome)
    (hsession : n'.rows.session.isSome = n.rows.session.isSome) : Sound n' where
  agent := by
    rw [hsession, hagent]
    exact h.agent
  owned := by
    rw [hspawns, hagent]
    exact h.owned
  one := by
    rw [hspawns]
    exact h.one
  creating := by
    rw [hspawns, hsession]
    exact h.creating
  opened := by
    rw [hspawns, hsession]
    exact h.opened
  accepted := by
    rw [hspawns]
    exact h.accepted
  supervised := by
    rw [hlen, hspawns, hsession]
    exact h.supervised
  single := by
    rw [hlen]
    exact h.single
  launched := by
    rw [hspawns]
    exact h.launched

lemma Sound.set (h : Sound n) {t t' : SpawnTask} (ht : n.spawns[k]? = some t)
    (hf : Stage.Follows (stage t.pc) (stage t'.pc)) : Sound (n.setSpawn k t') := by
  have hmem : t ∈ n.spawns := List.mem_of_getElem? ht
  exact {
    agent := h.agent
    owned := forall_mem_set h.owned fun ho => h.owned t hmem (hf.owner ho)
    one := h.one.set ht fun ho => Or.inl (hf.owner ho)
    creating := forall_mem_set h.creating fun hc => (hf.creating hc).elim
    opened := forall_mem_set h.opened fun ho => h.opened t hmem (hf.opened ho)
    accepted := forall_mem_set h.accepted hf.refused
    supervised := by
      intro hlen
      obtain ⟨hsome, hlaunch⟩ := h.supervised hlen
      refine ⟨hsome, forall_mem_set hlaunch ?_⟩
      rw [Bool.eq_false_iff]
      intro hl
      have hno := hlaunch t hmem
      rw [hf.launching hl] at hno
      cases hno
    single := h.single
    launched := forall_mem_set h.launched fun hl => (hf.launched hl).elim }

lemma Sound.register (h : Sound n) {t t' : SpawnTask} (ht : n.spawns[k]? = some t)
    (hs : stage t'.pc = .creating) (ha : n.rows.agent = none) :
    Sound { n.setSpawn k t' with rows := { n.rows with agent := some .starting } } := by
  have hsession : n.rows.session.isSome = false := by
    rw [Bool.eq_false_iff]
    intro hsome
    have hagent := h.agent hsome
    rw [ha] at hagent
    cases hagent
  have hno : ∀ u ∈ n.spawns, ¬ (stage u.pc).owner = true := by
    intro u hu ho
    have hagent := h.owned u hu ho
    rw [ha] at hagent
    cases hagent
  exact {
    agent := fun _ => rfl
    owned := fun _ _ _ => rfl
    one := h.one.set ht fun _ => Or.inr hno
    creating := fun _ _ _ => hsession
    opened := forall_mem_set h.opened fun ho => by
      rw [hs] at ho
      cases ho
    accepted := forall_mem_set h.accepted (by simp [hs])
    supervised := by
      intro hlen
      have hsome := (h.supervised hlen).1
      rw [hsession] at hsome
      cases hsome
    single := h.single
    launched := forall_mem_set h.launched (by simp [hs]) }

lemma Sound.create (h : Sound n) {t t' : SpawnTask} (ht : n.spawns[k]? = some t)
    (hs : stage t.pc = .creating) (hs' : stage t'.pc = .starting) :
    Sound { n.setSpawn k t' with rows := { n.rows with session := some .active } } := by
  have hmem : t ∈ n.spawns := List.mem_of_getElem? ht
  have howner : (stage t.pc).owner = true := Stage.owner_of_creating hs
  have hagent := h.owned t hmem howner
  exact {
    agent := fun _ => hagent
    owned := fun _ _ _ => hagent
    one := h.one.set ht fun _ => Or.inl howner
    creating := fun u hu hc => (h.one.none_set ht howner
      (fun x hx => Stage.owner_of_creating hx) (by simp [hs']) u hu hc).elim
    opened := fun _ _ _ => rfl
    accepted := forall_mem_set h.accepted (by simp [hs'])
    supervised := by
      intro hlen
      have hno := (h.supervised hlen).2 t hmem
      rw [hs] at hno
      cases hno
    single := h.single
    launched := forall_mem_set h.launched (by simp [hs']) }

lemma Sound.spawnTask (h : Sound n) {t t' : SpawnTask} (ht : n.spawns[k]? = some t)
    (hs : stage t.pc = .started) (hs' : stage t'.pc = .launched)
    (htask : t'.task = n.supervisors.length) (s : Supervised) :
    Sound { n.setSpawn k t' with supervisors := n.supervisors ++ [s] } := by
  have hmem : t ∈ n.spawns := List.mem_of_getElem? ht
  have hlaunching : (stage t.pc).launching = true := by
    rw [hs]
    rfl
  have howner := Stage.owner_of_launching hlaunching
  have hsession : n.rows.session.isSome = true := by
    apply h.opened t hmem
    rw [hs]
    rfl
  have hempty : n.supervisors.length = 0 := by
    by_contra hlen
    rw [(h.supervised hlen).2 t hmem] at hlaunching
    cases hlaunching
  exact {
    agent := h.agent
    owned := forall_mem_set h.owned fun _ => h.owned t hmem howner
    one := h.one.set ht fun _ => Or.inl howner
    creating := forall_mem_set h.creating (by simp [hs'])
    opened := fun _ _ _ => hsession
    accepted := forall_mem_set h.accepted (by simp [hs'])
    supervised := by
      refine fun _ => ⟨hsession, fun u hu => ?_⟩
      rw [Bool.eq_false_iff]
      exact h.one.none_set ht howner (fun x hx => Stage.owner_of_launching hx)
        (by simp [hs', Stage.launching]) u hu
    single := by simp [hempty]
    launched := forall_mem_set h.launched fun _ => htask.trans hempty }

lemma Sound.snoc (h : Sound n) (request : SpawnRequest) :
    Sound { n with spawns := n.spawns ++ [⟨request, .sessionGet, 0⟩] } where
  agent := h.agent
  owned := forall_mem_snoc h.owned (by simp [stage, Stage.owner])
  one := h.one.snoc (by simp [stage, Stage.owner])
  creating := forall_mem_snoc h.creating (by simp [stage])
  opened := forall_mem_snoc h.opened (by simp [stage, Stage.opened])
  accepted := forall_mem_snoc h.accepted (by simp [stage])
  supervised := fun hlen => ⟨(h.supervised hlen).1, forall_mem_snoc (h.supervised hlen).2 rfl⟩
  single := h.single
  launched := forall_mem_snoc h.launched (by simp [stage])

lemma runAwait_session (a : Await) (rows : Rows) : (runAwait a rows).session = rows.session := by
  cases a <;> rfl

lemma runAwait_agent (a : Await) (rows : Rows) :
    (runAwait a rows).agent.isSome = rows.agent.isSome := by
  cases a <;> simp [runAwait, Await.job, Op.execute]

lemma length_abortChild : n.abortChild.length = n.supervisors.length := by
  rw [Name.abortChild]
  split
  · exact List.length_modify _ _ _
  · rfl

lemma Sound.step {a : Act} (h : Sound n) (hm : Moves n a n') : Sound n' := by
  cases hm with
  | spawn request => exact h.snoc request
  | onto ht hs _ => exact h.set ht (Stage.follows_of_onto hs)
  | fails ht hs _ => exact h.set ht (Stage.follows_of_onto hs)
  | register ht _ hs' ha => exact h.register ht hs' ha
  | create ht hs hs' _ => exact h.create ht hs hs'
  | refused ht hs hn =>
    have hnone := h.creating _ (List.mem_of_getElem? ht) hs
    exact (hn (by simpa using hnone)).elim
  | @setRunning k t outcome pc ht hs hs' =>
    have hf : Stage.Follows (stage t.pc) (stage pc) := by
      rw [hs, hs']
      exact Stage.follows_started
    exact (h.set ht hf).frame rfl rfl (by simp [Name.setSpawn]) rfl
  | @setExited k t outcome pc ht hs =>
    obtain ⟨hs, hs'⟩ := hs.resolve_left (h.accepted _ (List.mem_of_getElem? ht))
    have hf : Stage.Follows (stage t.pc) (stage pc) := by
      rw [hs, hs']
      exact Stage.follows_of_onto rfl
    exact (h.set ht hf).frame rfl rfl (by simp [Name.setSpawn]) rfl
  | spawnTask ht hs hs' => exact h.spawnTask ht hs hs' rfl _
  | @registerChild k t outcome pc ht hpc hs' =>
    have hf : Stage.Follows (stage t.pc) (stage pc) := by
      rw [hpc, hs']
      exact Stage.follows_over _
    exact (h.set ht hf).frame rfl rfl rfl rfl
  | kill kind => exact h.frame rfl rfl rfl rfl
  | killOnto ht hc => exact h.frame rfl rfl rfl rfl
  | killFails ht hc => exact h.frame rfl rfl rfl rfl
  | killChild ht => exact h.frame rfl length_abortChild rfl rfl
  | killExited ht hc => exact h.frame rfl rfl (by simp) rfl
  | close ht hpc => exact h.frame rfl rfl rfl (by simp)
  | ended hs hp => exact h.frame rfl (by simp [Name.setPhase]) rfl rfl
  | reach hs hp => exact h.frame rfl (by simp [Name.setPhase]) rfl rfl
  | @execute k s a works hs hp =>
    refine h.frame rfl (by simp [Name.setPhase]) ?_ ?_
    · cases works <;> simp [runAwait_agent]
    · cases works <;> simp [runAwait_session]
  | resume hs hp hl => exact h.frame rfl (by simp [Name.setPhase]) rfl rfl
  | drop hs hp ha => exact h.frame rfl (by simp [Name.setPhase]) rfl rfl
  | @orphan a rest works ho =>
    refine h.frame rfl rfl ?_ ?_
    · cases works <;> simp [runAwait_agent]
    · cases works <;> simp [runAwait_session]

end WalkieTalkie.Orchestration.Status
