import Mathlib.Data.List.Chain
import WalkieTalkie.Orchestration.Routing
import WalkieTalkie.Sessions.Outstanding

/-! Idle notices. A notice is sent when a turn is active and as much time as the timeout has passed
since the last sign of life: the start of the supervisor, an event of the harness or a turn that was
fed. After a notice there is a sign before the next one. Store jobs may fail here. -/

namespace WalkieTalkie.Sessions.Clock

open Proto Store Lib Lib.Runs
open Orchestration.Clients (Sorting)
open Orchestration.Requests (textBytes)

/-- What the supervisor goes on with when its store job fails. Only the query for turns to feed passes
its error on. -/
def failedJob (sup : Supervisor) : Option Supervisor :=
  match sup.phase with
  | .pending _ => some { sup with phase := .setExited "harness write failed" }
  | .markConsumed _ rest fed timer => some { sup with phase := .setRunning rest fed timer }
  | .setRunning rest fed timer => some { sup with phase := .feed rest (fed + 1) timer }
  | .idleNotice _ => some { sup with phase := .select }
  | .trace _ => some { sup with phase := .select }
  | .turnOutput _ => some { sup with phase := .setAwaiting }
  | .setAwaiting => some { sup with phase := .select }
  | .touch => some { sup with phase := .pending true }
  | .setExited reason => some { sup with phase := .exitNotice reason }
  | .exitNotice _ => some { sup with phase := .ended }
  | _ => none

def State.failed (st : State) (sup' : Supervisor) : State :=
  { st with
    sup := sup'
    children :=
      if sup'.phase = .ended then
        st.children.filter fun child => child ≠ (st.sup.group, st.sup.session)
      else st.children
    timerStart := if sup'.phase = .select then st.now else st.timerStart }

inductive Outcome
  | step (l : Label)
  | failure

/-- The steps of `step`, and those of a supervisor whose store job fails. -/
def attempt (fromStr : String → Option Json) (O : Sorting) (st : State) : Outcome → Option State
  | .step l => step fromStr O st l
  | .failure => (failedJob st.sup).map st.failed

/-- When the supervisor was started, given an event of the harness or fed a turn. -/
def Mark.sign : Mark → Option ℕ
  | .started time => some time
  | .event time => some time
  | .fed time => some time
  | .notice _ => none

def Mark.isNotice : Mark → Bool
  | .notice _ => true
  | _ => false

def noticed (marks : List Mark) : Bool := marks.getLast?.any Mark.isNotice

def SignAfterNotice (m m' : Mark) : Prop :=
  m.isNotice = true → ∃ t, m' = .event t ∨ m' = .fed t

def Notifying (phase : Phase) : Prop := ∃ idle, phase = .idleNotice idle

/-- What the marks say of the flags. While a drain goes on, a turn may have been fed after the last
activity. -/
structure Flagged (T : Option ℕ) (st : State) : Prop where
  timeout : st.sup.idleTimeout = T
  activity : st.lastActivity ≤ st.now
  past : ∀ m ∈ st.marks, ∀ t, m.sign = some t → t ≤ st.now
  latest : st.sup.phase.closing = false → wrote st.sup.phase = 0 →
    ∀ m ∈ st.marks, ∀ t, m.sign = some t → t ≤ st.lastActivity
  noticed : noticed st.marks = true → st.sup.idleNotified = true ∧ ¬ Notifying st.sup.phase ∧
    wrote st.sup.phase = 0
  due : Notifying st.sup.phase → st.sup.idleNotified = true ∧ st.sup.turnActive = true ∧
    ∃ t, T = some t ∧ st.lastActivity + t ≤ st.now
  chain : st.marks.IsChain SignAfterNotice

variable {fromStr : String → Option Json} {O : Sorting} {st st' : State} {l : Label} {T : Option ℕ}

lemma not_notifying {phase : Phase} (h : ∀ idle, phase ≠ .idleNotice idle) : ¬ Notifying phase := by
  rintro ⟨idle, hp⟩
  exact h idle hp

@[simp] lemma noticed_snoc (marks : List Mark) (m : Mark) :
    noticed (marks ++ [m]) = m.isNotice := by
  simp [noticed]

lemma chain_snoc {marks : List Mark} {m : Mark} (h : marks.IsChain SignAfterNotice)
    (hm : noticed marks = true → ∃ t, m = .event t ∨ m = .fed t) :
    (marks ++ [m]).IsChain SignAfterNotice := by
  refine List.IsChain.append h (List.isChain_singleton m) fun x hx y hy hn => ?_
  obtain rfl : m = y := by simpa using hy
  apply hm
  rw [noticed, Option.mem_def.mp hx]
  exact hn

lemma Flagged.frame (h : Flagged T st) (hmarks : st'.marks = st.marks) (hnow : st.now ≤ st'.now)
    (hactivity : st'.lastActivity = st.lastActivity)
    (hflags : st'.sup.idleNotified = st.sup.idleNotified ∧ st'.sup.turnActive = st.sup.turnActive ∧
      st'.sup.idleTimeout = st.sup.idleTimeout)
    (hlatest : st'.sup.phase.closing = false → wrote st'.sup.phase = 0 →
      st.sup.phase.closing = false ∧ wrote st.sup.phase = 0)
    (hwrote : wrote st.sup.phase = 0 → wrote st'.sup.phase = 0)
    (hnotify : Notifying st'.sup.phase → Notifying st.sup.phase) : Flagged T st' where
  timeout := hflags.2.2.trans h.timeout
  activity := by
    rw [hactivity]
    exact h.activity.trans hnow
  past := by
    rw [hmarks]
    exact fun m hm t ht => (h.past m hm t ht).trans hnow
  latest hclosing hzero := by
    rw [hmarks, hactivity]
    exact h.latest (hlatest hclosing hzero).1 (hlatest hclosing hzero).2
  noticed hn := by
    rw [hmarks] at hn
    obtain ⟨hnotified, hnot, hzero⟩ := h.noticed hn
    exact ⟨hflags.1.trans hnotified, mt hnotify hnot, hwrote hzero⟩
  due hp := by
    obtain ⟨hnotified, hactive, t, ht, hle⟩ := h.due (hnotify hp)
    rw [hactivity]
    exact ⟨hflags.1.trans hnotified, hflags.2.1.trans hactive, t, ht, hle.trans hnow⟩
  chain := by
    rw [hmarks]
    exact h.chain

/-- A step from one phase to another in neither of which a turn was written or a notice is due. -/
lemma Flagged.calm (h : Flagged T st) (hmarks : st'.marks = st.marks) (hnow : st'.now = st.now)
    (hactivity : st'.lastActivity = st.lastActivity)
    (hflags : st'.sup.idleNotified = st.sup.idleNotified ∧ st'.sup.turnActive = st.sup.turnActive ∧
      st'.sup.idleTimeout = st.sup.idleTimeout)
    {phase : Phase} (hphase : st.sup.phase = phase) (hclosing : phase.closing = false)
    (hzero : wrote phase = 0) (hzero' : wrote st'.sup.phase = 0)
    (hnotify : ¬ Notifying st'.sup.phase) : Flagged T st' := by
  subst hphase
  exact h.frame hmarks hnow.ge hactivity hflags (fun _ _ => ⟨hclosing, hzero⟩) (fun _ => hzero')
    fun hp => absurd hp hnotify

lemma Flagged.sign (h : Flagged T st) {m : Mark} (hm : m = .event st.now ∨ m = .fed st.now)
    (hmarks : st'.marks = st.marks ++ [m]) (hnow : st'.now = st.now)
    (htimeout : st'.sup.idleTimeout = st.sup.idleTimeout)
    (hactivity : st'.lastActivity = st.now ∨
      st'.lastActivity = st.lastActivity ∧ 0 < wrote st'.sup.phase)
    (hnotify : ¬ Notifying st'.sup.phase) : Flagged T st' := by
  have hsign : m.sign = some st.now ∧ m.isNotice = false := by
    rcases hm with rfl | rfl
    · exact ⟨rfl, rfl⟩
    · exact ⟨rfl, rfl⟩
  have hall : ∀ x ∈ st'.marks, ∀ t, x.sign = some t → t ≤ st.now := by
    rw [hmarks]
    refine forall_mem_snoc h.past fun t ht => ?_
    rw [hsign.1] at ht
    exact (Option.some.inj ht).symm.le
  refine ⟨htimeout.trans h.timeout, ?_, ?_, fun _ hzero => ?_, fun hn => ?_,
    fun hp => absurd hp hnotify, ?_⟩
  · rw [hnow]
    rcases hactivity with hact | ⟨hact, _⟩
    · exact hact.le
    · rw [hact]
      exact h.activity
  · rw [hnow]
    exact hall
  · rcases hactivity with hact | ⟨_, hpos⟩
    · rw [hact]
      exact hall
    · exact absurd hzero hpos.ne'
  · rw [hmarks, noticed_snoc, hsign.2] at hn
    cases hn
  · rw [hmarks]
    exact chain_snoc h.chain fun _ => ⟨st.now, hm⟩

lemma Flagged.close (h : Flagged T st) (hmarks : st'.marks = st.marks) (hnow : st'.now = st.now)
    (hactivity : st'.lastActivity = st.lastActivity)
    (hflags : st'.sup.idleNotified = st.sup.idleNotified ∧ st'.sup.turnActive = st.sup.turnActive ∧
      st'.sup.idleTimeout = st.sup.idleTimeout) (hclosing : st'.sup.phase.closing = true) :
    Flagged T st' := by
  refine h.frame hmarks hnow.ge hactivity hflags (fun hc _ => ?_) (fun _ => ?_) fun hp => ?_
  · rw [hclosing] at hc
    cases hc
  · cases hphase : st'.sup.phase <;> rw [hphase] at hclosing <;> first | rfl | cases hclosing
  · obtain ⟨idle, hp⟩ := hp
    rw [hp] at hclosing
    cases hclosing

lemma flagged_drained (h : Flagged T st) {fed : ℕ} {timer : Bool}
    (hphase : st.sup.phase = .feed [] fed timer) (hsup : st'.sup = st.sup.drained fed timer)
    (hmarks : st'.marks = st.marks) (hnow : st'.now = st.now)
    (hactivity : st'.lastActivity = if 0 < fed then st.now else st.lastActivity) :
    Flagged T st' := by
  have hzero : wrote (st.sup.drained fed timer).phase = 0 := by cases timer <;> rfl
  have hnotify : ¬ Notifying (st.sup.drained fed timer).phase := by
    rintro ⟨idle, hp⟩
    cases timer <;> cases hp
  cases fed with
  | zero =>
    refine h.calm hmarks hnow hactivity ?_ hphase rfl rfl (hsup ▸ hzero) (hsup ▸ hnotify)
    rw [hsup]
    simp [Supervisor.drained]
  | succ n =>
    rw [if_pos (Nat.succ_pos n)] at hactivity
    refine ⟨?_, ?_, ?_, fun _ _ => ?_, fun hn => ?_, fun hp => absurd hp (hsup ▸ hnotify), ?_⟩
    · rw [hsup]
      exact h.timeout
    · rw [hactivity, hnow]
    · rw [hmarks, hnow]
      exact h.past
    · rw [hmarks, hactivity]
      exact h.past
    · rw [hmarks] at hn
      have hwrote := (h.noticed hn).2.2
      rw [hphase] at hwrote
      cases hwrote
    · rw [hmarks]
      exact h.chain

lemma flagged_overdue (h : Flagged T st) {idle : ℕ} (hphase : st.sup.phase = .idleCheck)
    (hidle : st.overdue = true) : Flagged T { st with
      sup := { st.sup with idleNotified := true, phase := .idleNotice idle } } := by
  simp only [State.overdue, Bool.and_eq_true, Bool.not_eq_true'] at hidle
  obtain ⟨⟨hactive, hnot⟩, htimeout⟩ := hidle
  have hle := h.activity
  refine ⟨h.timeout, hle, h.past, fun _ _ => ?_, fun hn => ?_, fun _ => ⟨rfl, hactive, ?_⟩, h.chain⟩
  · exact h.latest (by rw [hphase]; rfl) (by rw [hphase]; rfl)
  · rw [(h.noticed hn).1] at hnot
    cases hnot
  · cases hT : T with
    | none =>
      rw [h.timeout, hT] at htimeout
      cases htimeout
    | some t =>
      rw [h.timeout, hT] at htimeout
      have ht : t ≤ st.now - st.lastActivity := of_decide_eq_true htimeout
      refine ⟨t, rfl, ?_⟩
      dsimp only
      omega

lemma flagged_notice (h : Flagged T st) {store : Db} {rx timerStart : ℕ}
    (hnotify : Notifying st.sup.phase) : Flagged T { st with
      store
      sup := { st.sup with phase := .select }
      rx
      timerStart
      marks := st.marks ++ [.notice st.now] } := by
  have hfresh : ¬ noticed st.marks = true := fun hn => (h.noticed hn).2.1 hnotify
  refine ⟨h.timeout, h.activity, ?_, fun _ _ => ?_, fun _ => ?_, fun hp => ?_, ?_⟩
  · exact forall_mem_snoc h.past fun t ht => (by cases ht)
  · refine forall_mem_snoc (h.latest ?_ ?_) fun t ht => (by cases ht)
    · obtain ⟨idle, hp⟩ := hnotify
      rw [hp]
      rfl
    · obtain ⟨idle, hp⟩ := hnotify
      rw [hp]
      rfl
  · exact ⟨(h.due hnotify).1, not_notifying fun _ => Phase.noConfusion, rfl⟩
  · obtain ⟨idle, hp⟩ := hp
    cases hp
  · exact chain_snoc h.chain fun hn => absurd hn hfresh

lemma flagged_step (h : Flagged T st) (hmoves : Moves fromStr st l st') : Flagged T st' := by
  cases hmoves with
  | delay hst =>
    subst hst
    exact h.frame rfl (Nat.le_add_right _ _) rfl ⟨rfl, rfl, rfl⟩ (fun hc hw => ⟨hc, hw⟩) id id
  | send _ hst | consume _ hst | status hst =>
    subst hst
    exact h.frame rfl (Nat.le_refl _) rfl ⟨rfl, rfl, rfl⟩ (fun hc hw => ⟨hc, hw⟩) id id
  | query hphase hst | woken hphase hst | touched hphase hst | awaiting hphase hst =>
    subst hst
    exact h.calm rfl rfl rfl ⟨rfl, rfl, rfl⟩ hphase rfl rfl rfl
      (not_notifying fun _ => Phase.noConfusion)
  | checked hphase _ hst | timer hphase _ hst | traced hphase _ hst | output hphase _ hst =>
    subst hst
    exact h.calm rfl rfl rfl ⟨rfl, rfl, rfl⟩ hphase rfl rfl rfl
      (not_notifying fun _ => Phase.noConfusion)
  | more hphase hst =>
    subst hst
    exact h.frame rfl (Nat.le_refl _) rfl ⟨rfl, rfl, rfl⟩ (fun hc hw => ⟨hc, hw⟩) id id
  | drained hphase hst =>
    subst hst
    exact flagged_drained h hphase rfl rfl rfl rfl
  | wrote hphase hst =>
    subst hst
    exact h.sign (Or.inr rfl) rfl rfl rfl (Or.inr ⟨rfl, Nat.succ_pos _⟩)
      (not_notifying fun _ => Phase.noConfusion)
  | marked hphase _ hst | running hphase hst =>
    subst hst
    exact h.frame rfl (Nat.le_refl _) rfl ⟨rfl, rfl, rfl⟩ (fun _ hw => (by cases hw))
      (fun hw => (by rw [hphase] at hw; cases hw))
      fun hn => absurd hn (not_notifying fun _ => Phase.noConfusion)
  | overdue hphase hidle hst =>
    subst hst
    exact flagged_overdue h hphase hidle
  | notice hphase _ hst =>
    subst hst
    exact flagged_notice h ⟨_, hphase⟩
  | text hphase _ hst =>
    subst hst
    refine h.sign (Or.inl rfl) rfl rfl rfl (Or.inl rfl) (not_notifying fun _ => ?_)
    dsimp only
    split <;> exact Phase.noConfusion
  | complete hphase _ hst =>
    subst hst
    exact h.sign (Or.inl rfl) rfl rfl rfl (Or.inl rfl)
      (not_notifying fun _ => Phase.noConfusion)
  | ends hclosing _ _ _ hst =>
    subst hst
    exact h.close rfl rfl rfl ⟨rfl, rfl, rfl⟩ hclosing

lemma flagged_failed (h : Flagged T st) {sup' : Supervisor} (hfailed : failedJob st.sup = some sup') :
    Flagged T (st.failed sup') := by
  rw [failedJob] at hfailed
  split at hfailed
  · obtain rfl := Option.some.inj hfailed
    exact h.close rfl rfl rfl ⟨rfl, rfl, rfl⟩ rfl
  · next hphase =>
    obtain rfl := Option.some.inj hfailed
    exact h.frame rfl (Nat.le_refl _) rfl ⟨rfl, rfl, rfl⟩ (fun _ hw => (by cases hw))
      (fun hw => (by rw [hphase] at hw; cases hw))
      fun hn => absurd hn (not_notifying fun _ => Phase.noConfusion)
  · next hphase =>
    obtain rfl := Option.some.inj hfailed
    exact h.frame rfl (Nat.le_refl _) rfl ⟨rfl, rfl, rfl⟩ (fun _ hw => (by cases hw))
      (fun hw => (by rw [hphase] at hw; cases hw))
      fun hn => absurd hn (not_notifying fun _ => Phase.noConfusion)
  · next hphase =>
    obtain rfl := Option.some.inj hfailed
    exact h.calm rfl rfl rfl ⟨rfl, rfl, rfl⟩ hphase rfl rfl rfl
      (not_notifying fun _ => Phase.noConfusion)
  · next hphase =>
    obtain rfl := Option.some.inj hfailed
    exact h.calm rfl rfl rfl ⟨rfl, rfl, rfl⟩ hphase rfl rfl rfl
      (not_notifying fun _ => Phase.noConfusion)
  · next hphase =>
    obtain rfl := Option.some.inj hfailed
    exact h.calm rfl rfl rfl ⟨rfl, rfl, rfl⟩ hphase rfl rfl rfl
      (not_notifying fun _ => Phase.noConfusion)
  · next hphase =>
    obtain rfl := Option.some.inj hfailed
    exact h.calm rfl rfl rfl ⟨rfl, rfl, rfl⟩ hphase rfl rfl rfl
      (not_notifying fun _ => Phase.noConfusion)
  · next hphase =>
    obtain rfl := Option.some.inj hfailed
    exact h.calm rfl rfl rfl ⟨rfl, rfl, rfl⟩ hphase rfl rfl rfl
      (not_notifying fun _ => Phase.noConfusion)
  · obtain rfl := Option.some.inj hfailed
    exact h.close rfl rfl rfl ⟨rfl, rfl, rfl⟩ rfl
  · obtain rfl := Option.some.inj hfailed
    exact h.close rfl rfl rfl ⟨rfl, rfl, rfl⟩ rfl
  · cases hfailed

lemma flagged_attempt (h : Flagged T st) {o : Outcome} (ho : attempt fromStr O st o = some st') :
    Flagged T st' := by
  cases o with
  | step l => exact flagged_step h (step_moves ho)
  | failure =>
    obtain ⟨sup', hfailed, rfl⟩ := Option.map_eq_some_iff.mp ho
    exact flagged_failed h hfailed

lemma flagged_launch (store : Db) (se : Session) (now : ℕ) :
    Flagged se.idleTimeout (launch store se now) where
  timeout := rfl
  activity := Nat.le_refl _
  past m hm t ht := by
    obtain rfl := List.mem_singleton.mp hm
    exact (Option.some.inj ht).symm.le
  latest _ _ m hm t ht := by
    obtain rfl := List.mem_singleton.mp hm
    exact (Option.some.inj ht).symm.le
  noticed hn := by cases hn
  due hn := absurd hn (not_notifying fun _ => Phase.noConfusion)
  chain := List.isChain_singleton _

lemma flagged_reached {store : Db} {se : Session} {now : ℕ} {ls : List Label}
    (hrun : Run (Fires (step fromStr O)) (launch store se now) ls st) : Flagged se.idleTimeout st :=
  hrun.invariant (fun _ _ _ hi hs => flagged_step hi (step_moves hs)) (flagged_launch store se now)

lemma flagged_attempted {store : Db} {se : Session} {now : ℕ} {os : List Outcome}
    (hrun : Run (Fires (attempt fromStr O)) (launch store se now) os st) :
    Flagged se.idleTimeout st :=
  hrun.invariant (fun _ _ _ hi ho => flagged_attempt hi ho) (flagged_launch store se now)

/-- The step enqueues a control message, and not the one that ends the supervisor. -/
def Notifies (st st' : State) (row : AgentMsgRow) : Prop :=
  st'.sup.phase ≠ .ended ∧ row.kind = .control ∧ st'.store.log = st.store.log ++ [row]

lemma post_log {sup sup' : Supervisor} {store store' : Db} {kind : AgentMsgKind} {text : String}
    {now : UInt64} {phase : Phase} (h : sup.post store kind text now phase = some (store', sup')) :
    sup'.phase = phase ∧ ∃ row : AgentMsgRow, store'.log = store.log ++ [row] ∧ row.kind = kind ∧
      row.fromAgent = sup.session ∧ row.toAgent = sup.prime ∧ row.payload = textBytes text := by
  obtain ⟨rfl, _, henq⟩ := post_eq h
  obtain ⟨bus, row, hbus, rfl⟩ := Orchestration.Routing.busEnqueue_ok henq
  have hrow := (BusTable.agentMsgEnqueue_ok hbus).1
  exact ⟨rfl, row, rfl, by rw [hrow], by rw [hrow], by rw [hrow], by rw [hrow]⟩

lemma log_grows {store store' : Db} {sup sup' : Supervisor} {clock : UInt64} {input : Input}
    {row : AgentMsgRow} (h : runSupervisor fromStr O store sup clock input = some (store', sup'))
    (hlog : store'.log = store.log ++ [row]) :
    ∃ kind text phase, sup.post store kind text clock phase = some (store', sup') ∧
      ((∃ idle, sup.phase = .idleNotice idle ∧ text = idleText idle) ∨ kind ≠ .control ∨
        phase = .ended) := by
  have hquiet : ∀ {last : Db} {sup'' : Supervisor}, some (last, sup'') = some (store', sup') →
      last.log = store.log → False := by
    intro last sup'' hlast hsame
    obtain ⟨rfl, _⟩ := Prod.mk.inj (Option.some.inj hlast)
    simp [hsame] at hlog
  unfold runSupervisor at h
  split at h
  · exact (hquiet h rfl).elim
  · exact (hquiet h rfl).elim
  · exact (hquiet h rfl).elim
  · exact (hquiet h rfl).elim
  · exact (hquiet h rfl).elim
  · exact (hquiet h rfl).elim
  · next idle hphase => exact ⟨_, _, _, h, Or.inl ⟨idle, hphase, rfl⟩⟩
  · exact (hquiet h rfl).elim
  · exact (hquiet h rfl).elim
  · exact (hquiet h rfl).elim
  · exact ⟨_, _, _, h, Or.inr (Or.inl AgentMsgKind.noConfusion)⟩
  · exact ⟨_, _, _, h, Or.inr (Or.inl AgentMsgKind.noConfusion)⟩
  · exact (hquiet h rfl).elim
  · exact (hquiet h rfl).elim
  · exact (hquiet h rfl).elim
  · exact ⟨_, _, _, h, Or.inr (Or.inr rfl)⟩
  · cases h

lemma notifies_phase {input : Input} {clock : UInt64} {row : AgentMsgRow}
    (h : step fromStr O st (.act input clock) = some st') (hn : Notifies st st' row) :
    ∃ idle, st.sup.phase = .idleNotice idle ∧ row.fromAgent = st.sup.session ∧
      row.toAgent = st.sup.prime ∧ row.payload = textBytes (idleText idle) := by
  obtain ⟨hended, hkind, hlog⟩ := hn
  simp only [step] at h
  split at h
  · split at h
    · cases h
    · next store sup' hrun =>
      obtain rfl := Option.some.inj h
      obtain ⟨kind, text, phase, hpost, hcase⟩ := log_grows hrun hlog
      obtain ⟨hphase, row', hlog', hkind', hfrom, hto, hpayload⟩ := post_log hpost
      have hrow : row = row' := by
        have hlists := hlog.symm.trans hlog'
        simpa using hlists
      subst hrow
      rcases hcase with ⟨idle, hidle, rfl⟩ | hcontrol | hend
      · exact ⟨idle, hidle, hfrom, hto, hpayload⟩
      · exact absurd (hkind'.symm.trans hkind) hcontrol
      · exact absurd (hphase.trans hend) hended
  · cases h

lemma notice_notifies {input : Input} {clock : UInt64} {idle : ℕ}
    (h : step fromStr O st (.act input clock) = some st') (hphase : st.sup.phase = .idleNotice idle) :
    (∃ row, Notifies st st' row) ∧ st'.marks = st.marks ++ [.notice st.now] := by
  simp only [step, runSupervisor, hphase] at h
  split at h
  · split at h
    · cases h
    · next store sup' hrun =>
      obtain rfl := Option.some.inj h
      cases input with
      | done =>
        obtain ⟨hselect, row, hlog, hkind, _⟩ := post_log hrun
        have hevents : sup'.events = st.sup.events := by
          rw [(post_cases hrun).1]
        refine ⟨⟨row, fun hended => ?_, hkind, hlog⟩, ?_⟩
        · cases hselect.symm.trans hended
        · rw [moved_quiet hphase hevents]
          rfl
      | written | elapsed | read | woken | timer => cases hrun
  · cases h

lemma marks_notice (hmoves : Moves fromStr st l st') {t : ℕ}
    (hmarks : st'.marks = st.marks ++ [.notice t]) :
    (∃ idle, st.sup.phase = .idleNotice idle) ∧ st'.store.agents = st.store.agents ∧
      st'.children = st.children := by
  cases hmoves with
  | notice hphase hagents hst =>
    subst hst
    exact ⟨⟨_, hphase⟩, hagents, rfl⟩
  | wrote _ hst =>
    subst hst
    simp at hmarks
  | text _ _ hst | complete _ _ hst =>
    subst hst
    simp at hmarks
  | delay hst | status hst | query _ hst | drained _ hst | running _ hst | more _ hst | woken _ hst
    | awaiting _ hst | touched _ hst =>
    subst hst
    simp at hmarks
  | send _ hst | consume _ hst | marked _ _ hst | checked _ _ hst | overdue _ _ hst | timer _ _ hst
    | traced _ _ hst | output _ _ hst =>
    subst hst
    simp at hmarks
  | ends _ _ _ _ hst =>
    subst hst
    simp at hmarks

lemma sign_between {before between after : List Mark} {t t' : ℕ} {marks : List Mark}
    (h : marks.IsChain SignAfterNotice)
    (hmarks : marks = before ++ .notice t :: between ++ .notice t' :: after) :
    ∃ m ∈ between, ∃ u, m = .event u ∨ m = .fed u := by
  subst hmarks
  have hafter := List.IsChain.right_of_append (List.append_assoc before _ _ ▸ h)
  cases between with
  | nil =>
    obtain ⟨u, hu⟩ := (List.isChain_cons_cons.mp hafter).1 rfl
    rcases hu with hu | hu <;> cases hu
  | cons m rest =>
    obtain ⟨u, hu⟩ := (List.isChain_cons_cons.mp hafter).1 rfl
    exact ⟨m, List.mem_cons_self .., u, hu⟩

theorem idle_notices_sound_and_single {store : Db} {se : Session} {now : ℕ} {os : List Outcome}
    (hrun : Run (Fires (attempt fromStr O)) (launch store se now) os st) :
    (∀ before between after t t',
      st.marks = before ++ .notice t :: between ++ .notice t' :: after →
        ∃ m ∈ between, ∃ u, m = .event u ∨ m = .fed u) ∧
    (∀ input clock st', step fromStr O st (.act input clock) = some st' →
      ((∃ row, Notifies st st' row) ↔ st'.marks = st.marks ++ [.notice st.now]) ∧
      ∀ row, Notifies st st' row →
        (row.fromAgent = st.sup.session ∧ row.toAgent = st.sup.prime ∧
          ∃ idle, row.payload = textBytes (idleText idle)) ∧
        (∃ T, se.idleTimeout = some T ∧ st.sup.turnActive = true ∧
          ∀ m ∈ st.marks, ∀ t, m.sign = some t → t + T ≤ st.now) ∧
        st'.store.agents = st.store.agents ∧ st'.children = st.children) ∧
    ∀ st', attempt fromStr O st .failure = some st' →
      st'.store = st.store ∧ st'.marks = st.marks := by
  have hflagged := flagged_attempted hrun
  refine ⟨fun before between after t t' hmarks => ?_,
    fun input clock st' hstep => ⟨⟨?_, ?_⟩, ?_⟩, fun st' hfailure => ?_⟩
  · exact sign_between hflagged.chain hmarks
  · rintro ⟨row, hn⟩
    obtain ⟨idle, hphase, _⟩ := notifies_phase hstep hn
    exact (notice_notifies hstep hphase).2
  · intro hmarks
    obtain ⟨⟨idle, hphase⟩, _⟩ := marks_notice (step_moves hstep) hmarks
    exact (notice_notifies hstep hphase).1
  · intro row hn
    obtain ⟨idle, hphase, hfrom, hto, hpayload⟩ := notifies_phase hstep hn
    have hmarks := (notice_notifies hstep hphase).2
    obtain ⟨_, hagents, hchildren⟩ := marks_notice (step_moves hstep) hmarks
    obtain ⟨_, hactive, T, hT, hle⟩ := hflagged.due ⟨idle, hphase⟩
    refine ⟨⟨hfrom, hto, idle, hpayload⟩, ⟨T, hT, hactive, fun m hm t ht => ?_⟩, hagents, hchildren⟩
    have hlatest := hflagged.latest (by rw [hphase]; rfl) (by rw [hphase]; rfl) m hm t ht
    omega
  · obtain ⟨sup', _, rfl⟩ := Option.map_eq_some_iff.mp hfailure
    exact ⟨rfl, rfl⟩

def watchedSession : Session := { devSession with idleTimeout := some 5 }

def fedTurn : List Label :=
  [.send (turnInput [97]) 1, .act .done 1] ++ feedOne ++ [.act .done 1, .delay poll, .act .timer 2]

/-- A turn is fed, and the timer is the next to fire. The heartbeat fails. -/
def silentTurn : List Outcome :=
  fedTurn.map .step ++
    [.failure, .step (.act .done 2), .step (.act .done 2), .step (.act (.elapsed poll) 2)]

theorem idle_notices_sound_and_single_turn : ∃ st st',
    Run (Fires (attempt echoResult .stable)) (launch devStore watchedSession 0) silentTurn st ∧
    step echoResult .stable st (.act .done 3) = some st' ∧ (∃ row, Notifies st st' row) ∧
    st'.marks = [.started 0, .fed 0, .notice poll] ∧ st'.children = [("team", "dev")] := by
  have heval : (execute (attempt echoResult .stable) (launch devStore watchedSession 0)
      silentTurn).map (fun st => (st.marks, st.now, st.children,
        (step echoResult .stable st (.act .done 3)).map State.marks)) =
      some ([.started 0, .fed 0], poll, [("team", "dev")],
        some [.started 0, .fed 0, .notice poll]) := by
    decide +kernel
  obtain ⟨st, hst, hfacts⟩ := Option.map_eq_some_iff.mp heval
  obtain ⟨hmarks, hfacts⟩ := Prod.mk.inj hfacts
  obtain ⟨hnow, hfacts⟩ := Prod.mk.inj hfacts
  obtain ⟨hchildren, hlast⟩ := Prod.mk.inj hfacts
  obtain ⟨st', hstep, hmarks'⟩ := Option.map_eq_some_iff.mp hlast
  have hrun := execute_run hst
  have hsound := (idle_notices_sound_and_single hrun).2.1 _ _ st' hstep
  have hnotifies := hsound.1.mpr (by rw [hmarks', hmarks, hnow]; rfl)
  obtain ⟨row, hn⟩ := hnotifies
  exact ⟨st, st', hrun, hstep, ⟨row, hn⟩, hmarks', (hsound.2 row hn).2.2.2.trans hchildren⟩

end WalkieTalkie.Sessions.Clock
