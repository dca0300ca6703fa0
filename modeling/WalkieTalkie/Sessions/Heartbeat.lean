import WalkieTalkie.Sessions.Idle

/-! The timer of the select. Every event that ends a wait begins the timer anew, so that the heartbeat
and the idle check come in time only as long as events do not. Here time passes only in the select,
while no message is waiting and the timer is not due. The heartbeat keeps its bound when an event ends
a wait at the time of the last heartbeat only, the idle check when a drain that has fed nothing finds
the turn silent for no longer than the timeout. -/

namespace WalkieTalkie.Sessions.Clock

open Proto Store Lib Lib.Runs
open Orchestration.Clients (Sorting)
open Orchestration.Requests (Outgoing)

/-- What is ready is handled without delay. -/
def Prompt (st : State) : Label → Prop
  | .delay d => st.sup.phase = .ended ∨
      st.sup.phase = .select ∧ st.rx = 0 ∧ st.now + d ≤ st.timerStart + poll
  | _ => True

/-- The read gives a text or a completion. -/
def delivers (fromStr : String → Option Json) (buf : Bytes) (read : Read) : Bool :=
  match nextEvent fromStr buf read with
  | (.ok (some (.assistantText _)), _) => true
  | (.ok (some (.turnComplete _ _)), _) => true
  | _ => false

/-- A wait is ended by an event only at the time of the last heartbeat. -/
def Steady (fromStr : String → Option Json) (st : State) : Label → Prop
  | .act .woken _ => st.now = st.lastTouch
  | .act (.read read) _ => delivers fromStr st.sup.buf read = true → st.now = st.lastTouch
  | _ => True

/-- A turn is active, its silence is longer than the timeout, and no notice was due for it. -/
def State.late (st : State) : Bool :=
  st.sup.turnActive && !st.sup.idleNotified &&
    st.sup.idleTimeout.any (· < st.now - st.lastActivity)

/-- A drain that a message began, and that has fed nothing, finds no turn that is late. -/
def Attentive (st : State) : Label → Prop
  | .act .done _ => st.sup.phase = .feed [] 0 false → st.late = false
  | _ => True

instance (st : State) (l : Label) : Decidable (Prompt st l) :=
  match l with
  | .delay d => inferInstanceAs (Decidable (st.sup.phase = .ended ∨
      st.sup.phase = .select ∧ st.rx = 0 ∧ st.now + d ≤ st.timerStart + poll))
  | .act _ _ | .send _ _ | .consume .. | .status .. => isTrue trivial

instance (fromStr : String → Option Json) (st : State) (l : Label) :
    Decidable (Steady fromStr st l) :=
  match l with
  | .act .woken _ => inferInstanceAs (Decidable (st.now = st.lastTouch))
  | .act (.read read) _ => inferInstanceAs
      (Decidable (delivers fromStr st.sup.buf read = true → st.now = st.lastTouch))
  | .act .done _ | .act (.written _) _ | .act (.elapsed _) _ | .act .timer _ | .delay _ | .send _ _
  | .consume .. | .status .. => isTrue trivial

instance (st : State) (l : Label) : Decidable (Attentive st l) :=
  match l with
  | .act .done _ => inferInstanceAs
      (Decidable (st.sup.phase = .feed [] 0 false → st.late = false))
  | .act (.written _) _ | .act (.elapsed _) _ | .act (.read _) _ | .act .woken _ | .act .timer _
  | .delay _ | .send _ _ | .consume .. | .status .. => isTrue trivial

def Punctual (fromStr : String → Option Json) (st : State) (l : Label) : Prop :=
  Prompt st l ∧ Steady fromStr st l

def Watchful (st : State) (l : Label) : Prop := Prompt st l ∧ Attentive st l

instance (fromStr : String → Option Json) (st : State) (l : Label) :
    Decidable (Punctual fromStr st l) :=
  inferInstanceAs (Decidable (Prompt st l ∧ Steady fromStr st l))

instance (st : State) (l : Label) : Decidable (Watchful st l) :=
  inferInstanceAs (Decidable (Prompt st l ∧ Attentive st l))

/-- The time of the last heartbeat is that of the last timer, except while a wait or its end goes on. -/
def Beats (st : State) : Prop :=
  match st.sup.phase with
  | .select => st.timerStart = st.lastTouch ∧ st.now ≤ st.timerStart + poll
  | .touch => st.now ≤ st.lastTouch + poll
  | .setExited _ => st.now ≤ st.lastTouch + poll
  | .exitNotice _ => st.now ≤ st.lastTouch + poll
  | .ended => True
  | _ => st.now = st.lastTouch

variable {fromStr : String → Option Json} {O : Sorting} {st st' : State} {l : Label} {T : ℕ}

lemma Beats.bound (h : Beats st) (hlive : st.sup.phase ≠ .ended) :
    st.now ≤ st.lastTouch + poll := by
  cases hphase : st.sup.phase <;> simp only [Beats, hphase] at h
  case select => omega
  case touch | setExited | exitNotice => exact h
  case ended => exact absurd hphase hlive
  all_goals omega

lemma beats_step (h : Beats st) (hcond : Punctual fromStr st l) (hmoves : Moves fromStr st l st') :
    Beats st' := by
  cases hmoves with
  | delay hst =>
    subst hst
    rcases hcond.1 with hended | ⟨hselect, _, hdue⟩
    · simp [Beats, hended]
    · simp only [Beats, hselect] at h ⊢
      exact ⟨h.1, hdue⟩
  | send _ hst | consume _ hst | status hst =>
    subst hst
    exact h
  | query hphase hst | running hphase hst =>
    subst hst
    simpa only [Beats, hphase] using h
  | wrote hphase hst | marked hphase _ hst | overdue hphase _ hst | output hphase _ hst =>
    subst hst
    simpa only [Beats, hphase] using h
  | @drained fed timer clock _ hphase hst =>
    subst hst
    simp only [Beats, hphase] at h
    cases timer with
    | true => exact h
    | false => exact ⟨h, Nat.le_add_right _ _⟩
  | checked hphase _ hst | notice hphase _ hst | traced hphase _ hst =>
    subst hst
    simp only [Beats, hphase] at h
    exact ⟨h, Nat.le_add_right _ _⟩
  | awaiting hphase hst =>
    subst hst
    simp only [Beats, hphase] at h
    exact ⟨h, Nat.le_add_right _ _⟩
  | more hphase hst =>
    subst hst
    simpa only [Beats, hphase] using h
  | text hphase hnext hst =>
    have hnow := hcond.2 (by rw [delivers, hnext])
    subst hst
    cases htrace : st.sup.trace with
    | true => simpa [Beats, htrace] using hnow
    | false => exact ⟨hnow, Nat.le_add_right _ _⟩
  | complete hphase hnext hst =>
    have hnow := hcond.2 (by rw [delivers, hnext])
    subst hst
    exact hnow
  | woken hphase hst =>
    have hnow : st.now = st.lastTouch := hcond.2
    subst hst
    exact hnow
  | timer hphase _ hst =>
    subst hst
    simp only [Beats, hphase] at h
    exact h.1 ▸ h.2
  | touched hphase hst =>
    subst hst
    rfl
  | @ends _ _ phase _ _ _ _ _ _ hclosing _ hlive _ hst =>
    have hbound := h.bound hlive
    subst hst
    cases phase with
    | setExited | exitNotice => exact hbound
    | ended => trivial
    | pending | feed | markConsumed | setRunning | idleCheck | idleNotice | select | trace | turnOutput
      | setAwaiting | touch => cases hclosing

lemma beats_launch (store : Db) (se : Session) (now : ℕ) : Beats (launch store se now) := rfl

/-- A turn is active and no notice was due for its silence. -/
def restless (sup : Supervisor) : Bool := sup.turnActive && !sup.idleNotified

/-- The silence that ends now has been noticed, or it is no longer than the timeout and a wait. -/
def Heard (T : ℕ) (st : State) : Prop :=
  noticed st.marks = true ∨ ∃ m ∈ st.marks, ∃ t, m.sign = some t ∧ st.now ≤ t + T + poll

/-- What a phase asks of the clock and of the flags when it is entered. -/
structure Entered (T : ℕ) (st : State) : Prop where
  waiting : st.sup.phase = .select → st.now ≤ st.timerStart + poll ∧
    (restless st.sup = true → st.timerStart ≤ st.lastActivity + T)
  tracing : ∀ text, st.sup.phase = .trace text → st.now = st.lastActivity
  reporting : reports st.sup.phase = true ∨ st.sup.phase = .setAwaiting → st.sup.turnActive = false
  telling : Notifying st.sup.phase → st.sup.idleNotified = true

structure Watched (T : ℕ) (st : State) : Prop extends Entered T st where
  timeout : st.sup.idleTimeout = some T
  heard : st.sup.phase ≠ .ended → st.sup.turnActive = true → Heard T st
  sign : ∃ m ∈ st.marks, m.sign = some st.lastActivity
  fed : 0 < wrote st.sup.phase → Mark.fed st.now ∈ st.marks
  told : st.sup.phase.closing = false → st.sup.idleNotified = true →
    noticed st.marks = true ∨ 0 < wrote st.sup.phase ∨ Notifying st.sup.phase

lemma heard_sign {m : Mark} (hm : m ∈ st.marks) (hsign : m.sign = some st.now) : Heard T st :=
  Or.inr ⟨m, hm, st.now, hsign, by omega⟩

lemma Watched.frame (h : Watched T st) (hmarks : st'.marks = st.marks) (hnow : st'.now = st.now)
    (hactivity : st'.lastActivity = st.lastActivity)
    (hflags : st'.sup.idleNotified = st.sup.idleNotified ∧ st'.sup.turnActive = st.sup.turnActive ∧
      st'.sup.idleTimeout = st.sup.idleTimeout)
    {phase : Phase} (hphase : st.sup.phase = phase) (hclosing : phase.closing = false)
    (hwrote : wrote st'.sup.phase = wrote phase) (hnotify : ¬ Notifying phase)
    (hnext : Entered T st') : Watched T st' where
  toEntered := hnext
  timeout := hflags.2.2.trans h.timeout
  heard _ hactive := by
    have hlive : st.sup.phase ≠ .ended := by
      intro hended
      rw [← hphase, hended] at hclosing
      cases hclosing
    rw [Heard, hmarks, hnow]
    exact h.heard hlive (hflags.2.1 ▸ hactive)
  sign := by
    rw [hmarks, hactivity]
    exact h.sign
  fed := by
    rw [hwrote, ← hphase, hnow, hmarks]
    exact h.fed
  told _ hnotified := by
    subst hphase
    rw [hmarks, hwrote]
    rcases h.told hclosing (hflags.1 ▸ hnotified) with hn | hpos | hn
    · exact Or.inl hn
    · exact Or.inr (Or.inl hpos)
    · exact absurd hn hnotify

def plain : Phase → Bool
  | .select => false
  | .trace _ => false
  | .turnOutput _ => false
  | .setAwaiting => false
  | .idleNotice _ => false
  | _ => true

lemma entered_plain (h : plain st.sup.phase = true) : Entered T st := by
  refine ⟨fun hp => ?_, fun text hp => ?_, fun hp => ?_, ?_⟩
  · rw [hp] at h
    cases h
  · rw [hp] at h
    cases h
  · cases hphase : st.sup.phase <;> simp [hphase, plain, reports] at h hp
  · rintro ⟨idle, hp⟩
    rw [hp] at h
    cases h

lemma entered_reporting (hphase : reports st.sup.phase = true ∨ st.sup.phase = .setAwaiting)
    (hactive : st.sup.turnActive = false) : Entered T st := by
  refine ⟨fun hp => ?_, fun text hp => ?_, fun _ => hactive, ?_⟩
  · simp [hp, reports] at hphase
  · simp [hp, reports] at hphase
  · rintro ⟨idle, hp⟩
    simp [hp, reports] at hphase

lemma entered_select (hphase : st.sup.phase = .select) (hstart : st.timerStart = st.now)
    (hrest : restless st.sup = true → st.now ≤ st.lastActivity + T) : Entered T st := by
  refine ⟨fun _ => ⟨by omega, fun hr => ?_⟩, fun text h => ?_, fun h => ?_, ?_⟩
  · rw [hstart]
    exact hrest hr
  · cases hphase.symm.trans h
  · simp [hphase, reports] at h
  · rintro ⟨idle, hp⟩
    cases hphase.symm.trans hp

lemma watched_delay (h : Watched T st) {d : ℕ} (hcond : Prompt st (.delay d)) :
    Watched T { st with now := st.now + d } := by
  rcases hcond with hended | ⟨hselect, _, hdue⟩
  · refine ⟨entered_plain ?_, h.timeout, fun hlive => absurd hended hlive, h.sign, ?_, ?_⟩
    · simp [hended, plain]
    · simp [hended, wrote]
    · simp [hended, Phase.closing]
  · obtain ⟨_, hrest⟩ := h.waiting hselect
    refine ⟨⟨fun _ => ⟨hdue, hrest⟩, ?_, h.reporting, h.telling⟩, h.timeout, fun _ hactive => ?_,
      h.sign, ?_, h.told⟩
    · simp [hselect]
    · cases hnotified : st.sup.idleNotified with
      | true =>
        rcases h.told (by rw [hselect]; rfl) hnotified with hn | hpos | ⟨_, hp⟩
        · exact Or.inl hn
        · simp [hselect, wrote] at hpos
        · cases hselect.symm.trans hp
      | false =>
        have hstart := hrest (by simp_all [restless])
        obtain ⟨m, hm, hsign⟩ := h.sign
        refine Or.inr ⟨m, hm, st.lastActivity, hsign, ?_⟩
        dsimp only
        omega
    · simp [hselect, wrote]

lemma Watched.snoc (h : Watched T st) {m : Mark} (hsign : m.sign = some st.now)
    (hmarks : st'.marks = st.marks ++ [m]) (hnow : st'.now = st.now)
    (htimeout : st'.sup.idleTimeout = st.sup.idleTimeout)
    (hactivity : st'.lastActivity = st.now ∨ st'.lastActivity = st.lastActivity)
    (hfed : 0 < wrote st'.sup.phase → m = .fed st.now)
    (htold : st'.sup.idleNotified = true → 0 < wrote st'.sup.phase) (hnext : Entered T st') :
    Watched T st' := by
  have hm : m ∈ st'.marks := by
    rw [hmarks]
    exact List.mem_append_right _ (List.mem_singleton_self m)
  refine ⟨hnext, htimeout.trans h.timeout, fun _ _ => ?_, ?_, fun hpos => ?_, fun _ hn => ?_⟩
  · exact heard_sign hm (hnow ▸ hsign)
  · rcases hactivity with hact | hact
    · exact ⟨m, hm, hact ▸ hsign⟩
    · obtain ⟨x, hx, hxs⟩ := h.sign
      rw [hact, hmarks]
      exact ⟨x, List.mem_append_left _ hx, hxs⟩
  · rw [hnow, ← hfed hpos]
    exact hm
  · exact Or.inr (Or.inl (htold hn))

lemma watched_drained (h : Watched T st) {fed : ℕ} {timer : Bool}
    (hphase : st.sup.phase = .feed [] fed timer)
    (hearly : fed = 0 → timer = false → st.late = false) :
    Watched T { st with
      sup := st.sup.drained fed timer
      lastActivity := if 0 < fed then st.now else st.lastActivity
      timerStart := if timer then st.timerStart else st.now } := by
  have hnext : Entered T { st with
      sup := st.sup.drained fed timer
      lastActivity := if 0 < fed then st.now else st.lastActivity
      timerStart := if timer then st.timerStart else st.now } := by
    cases timer with
    | true => exact entered_plain rfl
    | false =>
      refine entered_select rfl rfl fun hr => ?_
      cases fed with
      | zero =>
        have hlate := hearly rfl rfl
        simp [restless, Supervisor.drained] at hr
        simp [State.late, hr, h.timeout] at hlate
        dsimp only
        rw [if_neg (Nat.lt_irrefl 0)]
        omega
      | succ n => exact Nat.le_add_right _ _
  cases fed with
  | zero =>
    refine h.frame rfl rfl rfl ⟨?_, ?_, rfl⟩ hphase rfl ?_ (not_notifying fun _ => Phase.noConfusion) hnext
    · simp [Supervisor.drained]
    · simp [Supervisor.drained]
    · cases timer <;> rfl
  | succ n =>
    have hfed := h.fed (by rw [hphase]; exact Nat.succ_pos n)
    refine ⟨hnext, h.timeout, fun _ _ => heard_sign hfed rfl, ⟨_, hfed, rfl⟩, fun hpos => ?_,
      fun _ hn => ?_⟩
    · cases timer <;> simp [Supervisor.drained, wrote] at hpos
    · simp [Supervisor.drained] at hn

lemma watched_notice (h : Watched T st) {store : Db} {rx : ℕ} (hnotify : Notifying st.sup.phase) :
    Watched T { st with
      store
      sup := { st.sup with phase := .select }
      rx
      timerStart := st.now
      marks := st.marks ++ [.notice st.now] } := by
  obtain ⟨m, hm, hsign⟩ := h.sign
  have hnotified := h.telling hnotify
  have hnoticed : noticed (st.marks ++ [Mark.notice st.now]) = true := noticed_snoc _ _
  refine ⟨entered_select rfl rfl fun hr => ?_, h.timeout, fun _ _ => Or.inl hnoticed,
    ⟨m, List.mem_append_left _ hm, hsign⟩, fun hpos => (by cases hpos), fun _ _ => Or.inl hnoticed⟩
  simp [restless, hnotified] at hr

lemma watched_text (h : Watched T st) {text : String} {buf : Bytes} : Watched T { st with
    sup := { st.sup with
      buf
      events := st.sup.events ++ [.assistantText text]
      idleNotified := false
      phase := if st.sup.trace then .trace text else .select }
    lastActivity := st.now
    timerStart := if st.sup.trace then st.timerStart else st.now
    marks := st.marks ++ [.event st.now] } := by
  cases htrace : st.sup.trace with
  | true =>
    refine h.snoc rfl rfl rfl rfl (Or.inl rfl) (fun hpos => ?_) (fun hn => (by cases hn)) ?_
    · cases hpos
    · exact ⟨fun hp => (by cases hp), fun _ _ => rfl, fun hp => (by simp [reports] at hp),
        fun hn => absurd hn (not_notifying fun _ => Phase.noConfusion)⟩
  | false =>
    refine h.snoc rfl rfl rfl rfl (Or.inl rfl) (fun hpos => ?_) (fun hn => (by cases hn)) ?_
    · cases hpos
    · exact entered_select rfl rfl fun _ => Nat.le_add_right _ _

lemma watched_ends (h : Watched T st) {phase : Phase} {eof : Bool} {buf : Bytes} {store : Db}
    {children : List (String × String)} {rx : ℕ} (hclosing : phase.closing = true)
    (hlive : st.sup.phase ≠ .ended) :
    Watched T { st with store, sup := { st.sup with phase, eof, buf }, children, rx } := by
  have hheard := h.heard hlive
  have hplain : plain phase = true ∧ wrote phase = 0 := by
    cases phase <;> first | exact ⟨rfl, rfl⟩ | cases hclosing
  refine ⟨entered_plain hplain.1, h.timeout, fun _ => hheard, h.sign, fun hpos => ?_, fun hc => ?_⟩
  · exact absurd hplain.2 hpos.ne'
  · cases hclosing.symm.trans hc

lemma watched_step (h : Watched T st) (hcond : Watchful st l) (hmoves : Moves fromStr st l st') :
    Watched T st' := by
  cases hmoves with
  | delay hst =>
    subst hst
    exact watched_delay h hcond.1
  | send _ hst | consume _ hst | status hst =>
    subst hst
    exact ⟨⟨h.waiting, h.tracing, h.reporting, h.telling⟩, h.timeout, h.heard, h.sign, h.fed, h.told⟩
  | query hphase hst | running hphase hst | woken hphase hst | touched hphase hst =>
    subst hst
    exact h.frame rfl rfl rfl ⟨rfl, rfl, rfl⟩ hphase rfl rfl (not_notifying fun _ => Phase.noConfusion)
      (entered_plain rfl)
  | marked hphase _ hst | timer hphase _ hst =>
    subst hst
    exact h.frame rfl rfl rfl ⟨rfl, rfl, rfl⟩ hphase rfl rfl (not_notifying fun _ => Phase.noConfusion)
      (entered_plain rfl)
  | drained hphase hst =>
    subst hst
    refine watched_drained h hphase fun hfed htimer => hcond.2 ?_
    rw [hphase, hfed, htimer]
  | wrote hphase hst =>
    subst hst
    exact h.snoc rfl rfl rfl rfl (Or.inr rfl) (fun _ => rfl) (fun _ => Nat.succ_pos _)
      (entered_plain rfl)
  | checked hphase hidle hst =>
    subst hst
    refine h.frame rfl rfl rfl ⟨rfl, rfl, rfl⟩ hphase rfl rfl (not_notifying fun _ => Phase.noConfusion)
      (entered_select rfl rfl fun hr => ?_)
    simp [restless] at hr
    simp [State.overdue, hr, h.timeout] at hidle
    dsimp only
    omega
  | @overdue idle clock _ hphase hidle hst =>
    have hheard := h.heard (by rw [hphase]; exact Phase.noConfusion)
    subst hst
    exact ⟨⟨fun hp => (by cases hp), fun _ hp => (by cases hp), fun hp => (by simp [reports] at hp),
      fun _ => rfl⟩, h.timeout, fun _ => hheard, h.sign, fun hpos => (by cases hpos),
      fun _ _ => Or.inr (Or.inr ⟨idle, rfl⟩)⟩
  | notice hphase _ hst =>
    subst hst
    exact watched_notice h ⟨_, hphase⟩
  | more hphase hst =>
    subst hst
    exact h.frame rfl rfl rfl ⟨rfl, rfl, rfl⟩ hphase rfl (by rw [hphase])
      (not_notifying fun _ => Phase.noConfusion) ⟨h.waiting, h.tracing, h.reporting, h.telling⟩
  | text _ _ hst =>
    subst hst
    exact watched_text h
  | complete hphase _ hst =>
    subst hst
    exact h.snoc rfl rfl rfl rfl (Or.inl rfl) (fun hpos => (by cases hpos)) (fun hn => (by cases hn))
      (entered_reporting (Or.inl rfl) rfl)
  | traced hphase _ hst =>
    have hnow := h.tracing _ hphase
    subst hst
    refine h.frame rfl rfl rfl ⟨rfl, rfl, rfl⟩ hphase rfl rfl (not_notifying fun _ => Phase.noConfusion)
      (entered_select rfl rfl fun hr => ?_)
    dsimp only
    omega
  | output hphase _ hst =>
    have hactive := h.reporting (Or.inl (by rw [hphase]; rfl))
    subst hst
    exact h.frame rfl rfl rfl ⟨rfl, rfl, rfl⟩ hphase rfl rfl (not_notifying fun _ => Phase.noConfusion)
      (entered_reporting (Or.inr rfl) hactive)
  | awaiting hphase hst =>
    have hactive := h.reporting (Or.inr hphase)
    subst hst
    refine h.frame rfl rfl rfl ⟨rfl, rfl, rfl⟩ hphase rfl rfl (not_notifying fun _ => Phase.noConfusion)
      (entered_select rfl rfl fun hr => ?_)
    simp [restless, hactive] at hr
  | ends hclosing _ hlive _ hst =>
    subst hst
    exact watched_ends h hclosing hlive

lemma watched_launch (store : Db) (se : Session) (now : ℕ) (htimeout : se.idleTimeout = some T) :
    Watched T (launch store se now) where
  toEntered := entered_plain rfl
  timeout := htimeout
  heard _ _ := heard_sign (List.mem_singleton_self (Mark.started now)) rfl
  sign := ⟨.started now, List.mem_singleton_self _, rfl⟩
  fed hpos := by cases hpos
  told _ hn := by cases hn

lemma woken_step {clock : UInt64} (hphase : st.sup.phase = .select) (hrx : 0 < st.rx) :
    step fromStr O st (.act .woken clock) = some { st with
      sup := { st.sup with phase := .pending false }, rx := st.rx - 1 } := by
  simp only [step, State.allows, hrx, decide_true, if_true, runSupervisor, hphase]
  exact congrArg some (moved_quiet hphase rfl)

lemma query_step {clock : UInt64} {timer : Bool} (hphase : st.sup.phase = .pending timer) :
    step fromStr O st (.act .done clock) = some { st with sup := { st.sup with
      phase := .feed (O.pending (st.store.bus.pending st.sup.group st.sup.session .turnInput)) 0 timer
      } } := by
  simp only [step, State.allows, if_true, runSupervisor, hphase]
  exact congrArg some (moved_quiet hphase rfl)

lemma drained_step {clock : UInt64} {fed : ℕ} {timer : Bool}
    (hphase : st.sup.phase = .feed [] fed timer) : step fromStr O st (.act .done clock) = some { st with
      sup := st.sup.drained fed timer
      lastActivity := if 0 < fed then st.now else st.lastActivity
      timerStart := if timer then st.timerStart else st.now } := by
  simp only [step, State.allows, if_true, runSupervisor, hphase]
  exact congrArg some (Eq.trans (moved_quiet hphase rfl) (drained_eq fed timer))

/-- A message wakes the select, no turn is pending, and the next wait lasts until its timer. -/
def wakeup (clock : UInt64) : List Label :=
  [.act .woken clock, .act .done clock, .act .done clock, .delay poll]

lemma wakeup_run (clock : UInt64) (hphase : st.sup.phase = .select) (hrx : st.rx = 1)
    (hnone : O.pending (st.store.bus.pending st.sup.group st.sup.session .turnInput) = []) :
    Run (Guarded Prompt (Fires (step fromStr O))) st (wakeup clock) { st with
      sup := st.sup.drained 0 false, rx := 0, timerStart := st.now, now := st.now + poll } := by
  refine .cons ⟨trivial, woken_step hphase (by omega)⟩ (.cons ⟨trivial, query_step rfl⟩ ?_)
  dsimp only
  rw [hnone, hrx]
  refine .cons ⟨trivial, drained_step rfl⟩ (.cons ⟨Or.inr ⟨rfl, rfl, Nat.le_refl _⟩, rfl⟩ ?_)
  exact .nil

lemma wakeup_unheard (h : Flagged (some T) st) (hphase : st.sup.phase = .select)
    (hlate : st.late = true) : ¬ Heard T { st with
      sup := st.sup.drained 0 false, rx := 0, timerStart := st.now, now := st.now + poll } := by
  simp [State.late, h.timeout] at hlate
  rintro (hn | ⟨m, hm, t, hsign, hle⟩)
  · have hnotified := (h.noticed hn).1
    simp [hnotified] at hlate
  · have hlatest := h.latest (by rw [hphase]; rfl) (by rw [hphase]; rfl) m hm t hsign
    dsimp only at hle
    omega

theorem poll_bounds_heartbeat_and_silence {store : Db} {se : Session} {now : ℕ} {ls : List Label} :
    (Run (Guarded (Punctual fromStr) (Fires (step fromStr O))) (launch store se now) ls st →
      st.sup.phase ≠ .ended → st.now ≤ st.lastTouch + poll) ∧
    (∀ T, se.idleTimeout = some T →
      Run (Guarded Watchful (Fires (step fromStr O))) (launch store se now) ls st →
      st.sup.phase ≠ .ended → st.sup.turnActive = true → Heard T st) ∧
    (Run (Guarded Prompt (Fires (step fromStr O))) (launch store se now) ls st →
      st.sup.phase = .select → st.rx = 1 →
      O.pending (st.store.bus.pending st.sup.group st.sup.session .turnInput) = [] →
      ∀ clock, ∃ st', Run (Guarded Prompt (Fires (step fromStr O))) st (wakeup clock) st' ∧
        st'.sup.phase = .select ∧ st'.sup.turnActive = st.sup.turnActive ∧
        (st'.now ≤ st'.lastTouch + poll → st.now ≤ st.lastTouch) ∧
        ∀ T, se.idleTimeout = some T → Heard T st' → st.late = false) := by
  refine ⟨fun hrun hlive => ?_, fun T htimeout hrun hlive hactive => ?_, fun hrun hphase hrx hnone => ?_⟩
  · have hbeats : Beats st := hrun.invariant
      (fun _ _ _ hi hs => beats_step hi hs.1 (step_moves hs.2)) (beats_launch store se now)
    exact hbeats.bound hlive
  · have hwatched : Watched T st := hrun.invariant
      (fun _ _ _ hi hs => watched_step hi hs.1 (step_moves hs.2)) (watched_launch store se now htimeout)
    exact hwatched.heard hlive hactive
  · intro clock
    refine ⟨_, wakeup_run clock hphase hrx hnone, rfl, ?_, fun hle => ?_, fun T htimeout hheard => ?_⟩
    · simp [Supervisor.drained]
    · dsimp only at hle
      omega
    · have hflagged := flagged_reached hrun.forget
      rw [htimeout] at hflagged
      cases hlate : st.late with
      | false => rfl
      | true => exact absurd hheard (wakeup_unheard hflagged hphase hlate)

def briefSession : Session := { devSession with idleTimeout := some 1000000000 }

def turnFed : List Label :=
  [.send (turnInput [97]) 1, .act .done 1] ++ feedOne ++ [.act .done 1, .act .woken 1, .act .done 1,
    .act .done 1]

theorem poll_bounds_heartbeat_and_silence_turn : ∃ st,
    Run (Fires (step echoResult .stable)) (launch devStore briefSession 0)
      (turnFed ++ [.delay poll]) st ∧
    st.now = poll ∧ st.sup.turnActive = true ∧ st.now ≤ st.lastTouch + poll ∧ Heard 1000000000 st := by
  have heval : (execute (restrict (fun st l => Punctual echoResult st l ∧ Watchful st l)
      (step echoResult .stable)) (launch devStore briefSession 0) (turnFed ++ [.delay poll])).map
      (fun st => (st.sup.phase, st.sup.turnActive, st.now)) = some (.select, true, poll) := by
    decide +kernel
  obtain ⟨st, hst, hfacts⟩ := Option.map_eq_some_iff.mp heval
  obtain ⟨hphase, hfacts⟩ := Prod.mk.inj hfacts
  obtain ⟨hactive, hnow⟩ := Prod.mk.inj hfacts
  have hrun := execute_restrict_run hst
  have hlive : st.sup.phase ≠ .ended := by
    rw [hphase]
    exact Phase.noConfusion
  refine ⟨st, hrun.forget, hnow, hactive, ?_, ?_⟩
  · exact poll_bounds_heartbeat_and_silence.1 (hrun.mono fun _ _ _ h => ⟨h.1.1, h.2⟩) hlive
  · exact poll_bounds_heartbeat_and_silence.2.1 _ rfl (hrun.mono fun _ _ _ h => ⟨h.1.2, h.2⟩) hlive
      hactive

def foreignMessage : Outgoing := ⟨"team", "ops", "prime", "ops", .turnInput, [97]⟩

def foreignWakeup : List Label :=
  [.delay 2000000000, .send foreignMessage 2, .act .woken 2, .act .done 2, .act .done 2]

theorem bus_traffic_starves_heartbeat_and_watchdog : ∃ st,
    Run (Guarded Prompt (Fires (step echoResult .stable))) (launch devStore briefSession 0)
      (turnFed ++ foreignWakeup ++ foreignWakeup ++ foreignWakeup) st ∧
    st.sup.phase = .select ∧ st.sup.turnActive = true ∧ ¬ st.now ≤ st.lastTouch + poll ∧
    ¬ Heard 1000000000 st := by
  have heval : (execute (restrict Prompt (step echoResult .stable)) (launch devStore briefSession 0)
      (turnFed ++ foreignWakeup ++ foreignWakeup ++ foreignWakeup)).map
      (fun st => (st.sup.phase, st.sup.turnActive, st.now, st.lastTouch, st.marks)) =
      some (.select, true, 6000000000, 0, [.started 0, .fed 0]) := by
    decide +kernel
  obtain ⟨st, hst, hfacts⟩ := Option.map_eq_some_iff.mp heval
  obtain ⟨hphase, hfacts⟩ := Prod.mk.inj hfacts
  obtain ⟨hactive, hfacts⟩ := Prod.mk.inj hfacts
  obtain ⟨hnow, hfacts⟩ := Prod.mk.inj hfacts
  obtain ⟨htouch, hmarks⟩ := Prod.mk.inj hfacts
  refine ⟨st, execute_restrict_run hst, hphase, hactive, ?_, ?_⟩
  · rw [hnow, htouch, poll]
    omega
  · rw [Heard, hmarks, hnow]
    rintro (hn | ⟨m, hm, t, hsign, hle⟩)
    · cases hn
    · have ht : t = 0 := by
        simp only [List.mem_cons, List.not_mem_nil, or_false] at hm
        rcases hm with rfl | rfl
        · exact (Option.some.inj hsign).symm
        · exact (Option.some.inj hsign).symm
      rw [poll] at hle
      omega

end WalkieTalkie.Sessions.Clock
