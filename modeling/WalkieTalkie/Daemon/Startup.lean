import Mathlib.Logic.Function.Basic
import WalkieTalkie.Lib.Runs

/-! Daemon processes that start and stop on one `WT_HOME`. They share the pid file and the socket; a
step is one operation on these files, and any other step of any process may come between two of them.
The content of the pid file is kept as it parses: `none` where it is no number. A process that has
written its pid file runs its IPC server beside its main task, and may crash at any point. -/

namespace WalkieTalkie.Daemon.Startup

open Lib.Runs

abbrev Pid := ℕ

/-- Where the main task of a process stands, named after the last operation it has completed. -/
inductive Phase
  | absent
  | launched
  | checked
  | pidUnlinked
  | sockUnlinked
  | storeOpened
  | reconciled
  | online
  | pidTruncated
  | started
  | closing
  | pidClosed
  | sockClosed
deriving DecidableEq

inductive Ipc
  | idle
  | unlinked
  | bound
  | failed
deriving DecidableEq

structure Proc where
  main : Phase
  ipc : Ipc
deriving DecidableEq

structure State where
  procs : Pid → Proc
  pidFile : Option (Option Pid)
  socket : Option Pid

def initial (pidFile : Option (Option Pid)) (socket : Option Pid) : State :=
  ⟨fun _ => ⟨.absent, .idle⟩, pidFile, socket⟩

/-- `foreign` tells whether a pid that belongs to no daemon of this home is alive. -/
inductive Label
  | launch (p : Pid)
  | check (p : Pid) (foreign : Bool)
  | unlinkPid (p : Pid)
  | unlinkSock (p : Pid)
  | openStore (p : Pid)
  | reconcileStaleAgents (p : Pid)
  | waitOnline (p : Pid)
  | truncatePidfile (p : Pid)
  | writePidfile (p : Pid)
  | ipcUnlink (p : Pid)
  | ipcBind (p : Pid)
  | signal (p : Pid)
  | closePid (p : Pid)
  | closeSock (p : Pid)
  | exit (p : Pid)
  | crash (p : Pid)

/-- Inside `start()`, after the test for another daemon and before its pid file is written. -/
def Phase.starting : Phase → Bool
  | .checked | .pidUnlinked | .sockUnlinked | .storeOpened | .reconciled | .online
  | .pidTruncated => true
  | _ => false

/-- `start()` has returned. -/
def Phase.passed : Phase → Bool
  | .started | .closing | .pidClosed | .sockClosed => true
  | _ => false

/-- `start()` has returned and no signal to stop has come. -/
def Serving (st : State) (p : Pid) : Prop := (st.procs p).main = .started

def pidAlive (st : State) (foreign : Bool) (pid : Pid) : Bool :=
  (st.procs pid).main ≠ .absent || foreign

/-- `ensure_no_other_daemon` finds the pid of a living process. -/
def otherDaemon (st : State) (foreign : Bool) : Bool :=
  match st.pidFile with
  | some (some pid) => pidAlive st foreign pid
  | _ => false

def State.goto (st : State) (p : Pid) (phase : Phase) : State :=
  { st with procs := Function.update st.procs p { st.procs p with main := phase } }

def State.serve (st : State) (p : Pid) (ipc : Ipc) : State :=
  { st with procs := Function.update st.procs p { st.procs p with ipc } }

def step (st : State) : Label → Option State
  | .launch p =>
    if (st.procs p).main = .absent then
      some { st with procs := Function.update st.procs p ⟨.launched, .idle⟩ }
    else none
  | .check p foreign =>
    if (st.procs p).main = .launched then
      some (st.goto p (if otherDaemon st foreign then .absent else .checked))
    else none
  | .unlinkPid p =>
    if (st.procs p).main = .checked then some { st.goto p .pidUnlinked with pidFile := none }
    else none
  | .unlinkSock p =>
    if (st.procs p).main = .pidUnlinked then some { st.goto p .sockUnlinked with socket := none }
    else none
  | .openStore p =>
    if (st.procs p).main = .sockUnlinked then some (st.goto p .storeOpened) else none
  | .reconcileStaleAgents p =>
    if (st.procs p).main = .storeOpened then some (st.goto p .reconciled) else none
  | .waitOnline p => if (st.procs p).main = .reconciled then some (st.goto p .online) else none
  | .truncatePidfile p =>
    if (st.procs p).main = .online then some { st.goto p .pidTruncated with pidFile := some none }
    else none
  | .writePidfile p =>
    if (st.procs p).main = .pidTruncated then
      some { st.goto p .started with pidFile := some (some p) }
    else none
  | .ipcUnlink p =>
    if (st.procs p).main.passed && (st.procs p).ipc = .idle then
      some { st.serve p .unlinked with socket := none }
    else none
  | .ipcBind p =>
    if (st.procs p).main.passed && (st.procs p).ipc = .unlinked then
      match st.socket with
      | none => some { st.serve p .bound with socket := some p }
      | some _ => some (st.serve p .failed)
    else none
  | .signal p => if (st.procs p).main = .started then some (st.goto p .closing) else none
  | .closePid p =>
    if (st.procs p).main = .closing then some { st.goto p .pidClosed with pidFile := none } else none
  | .closeSock p =>
    if (st.procs p).main = .pidClosed then some { st.goto p .sockClosed with socket := none }
    else none
  | .exit p => if (st.procs p).main = .sockClosed then some (st.goto p .absent) else none
  | .crash p => if (st.procs p).main = .absent then none else some (st.goto p .absent)

/-- A process that passes the test passes it while no other process is inside `start()`. -/
def Alone (st : State) : Label → Prop
  | .check p foreign => otherDaemon st foreign = false →
      ∀ q, q ≠ p → (st.procs q).main.starting = false
  | _ => True

/-- The steps of a starting daemon that would disturb another one. -/
def Label.disturbs (st : State) : Label → Option Pid
  | .reconcileStaleAgents p | .unlinkSock p => some p
  | .ipcUnlink p => if (st.procs p).main = .started then some p else none
  | _ => none

/-- Between the test and the removal of its own pid file. -/
def Phase.holds : Phase → Bool
  | .started | .closing => true
  | phase => phase.starting

structure Exclusive (st : State) : Prop where
  one : ∀ p q, (st.procs p).main.holds = true → (st.procs q).main.holds = true → p = q
  signed : ∀ p, (st.procs p).main = .started ∨ (st.procs p).main = .closing →
    st.pidFile = some (some p)

variable {st st' : State} {p : Pid}

lemma goto_main (st : State) (p q : Pid) (phase : Phase) :
    ((st.goto p phase).procs q).main = if q = p then phase else (st.procs q).main := by
  rw [State.goto]
  by_cases hq : q = p
  · subst hq
    simp
  · simp [hq]

lemma serve_main (st : State) (p q : Pid) (ipc : Ipc) :
    ((st.serve p ipc).procs q).main = (st.procs q).main := by
  rw [State.serve]
  by_cases hq : q = p
  · subst hq
    simp
  · simp [hq]

lemma exclusive_holder {phase : Phase} (h : Exclusive st) (hp : (st.procs p).main.holds = true)
    (hmain : ∀ q, (st'.procs q).main = if q = p then phase else (st.procs q).main)
    (hsigned : phase = .started ∨ phase = .closing → st'.pidFile = some (some p)) :
    Exclusive st' := by
  have hother : ∀ q, q ≠ p → (st'.procs q).main.holds = false := by
    intro q hq
    rw [hmain q, if_neg hq]
    by_contra hheld
    exact hq (h.one q p (by simpa using hheld) hp)
  constructor
  · intro q r hq hr
    by_cases hqp : q = p
    · by_cases hrp : r = p
      · exact hqp.trans hrp.symm
      · rw [hother r hrp] at hr
        cases hr
    · rw [hother q hqp] at hq
      cases hq
  · intro q hq
    by_cases hqp : q = p
    · subst hqp
      rw [hmain q, if_pos rfl] at hq
      exact hsigned hq
    · have hnot := hother q hqp
      rcases hq with hq | hq <;> rw [hq] at hnot <;> cases hnot

lemma exclusive_outside {phase : Phase} (h : Exclusive st) (hphase : phase.holds = false)
    (hmain : ∀ q, (st'.procs q).main = if q = p then phase else (st.procs q).main)
    (hfile : st'.pidFile = st.pidFile) : Exclusive st' := by
  have hsame : ∀ q, (st'.procs q).main.holds = true →
      q ≠ p ∧ (st'.procs q).main = (st.procs q).main := by
    intro q hq
    by_cases hqp : q = p
    · rw [hmain q, if_pos hqp, hphase] at hq
      cases hq
    · exact ⟨hqp, (hmain q).trans (if_neg hqp)⟩
  constructor
  · intro q r hq hr
    refine h.one q r ?_ ?_
    · rw [← (hsame q hq).2]
      exact hq
    · rw [← (hsame r hr).2]
      exact hr
  · intro q hq
    have hheld : (st'.procs q).main.holds = true := by
      rcases hq with hq | hq <;> rw [hq] <;> rfl
    rw [(hsame q hheld).2] at hq
    exact hfile.trans (h.signed q hq)

lemma exclusive_same (h : Exclusive st) (hmain : ∀ q, (st'.procs q).main = (st.procs q).main)
    (hfile : st'.pidFile = st.pidFile) : Exclusive st' := by
  constructor
  · intro q r hq hr
    rw [hmain] at hq hr
    exact h.one q r hq hr
  · intro q hq
    rw [hmain] at hq
    exact hfile.trans (h.signed q hq)

lemma holds_of_main {phase : Phase} (h : (st.procs p).main = phase) (hphase : phase.holds = true) :
    (st.procs p).main.holds = true := by
  rw [h]
  exact hphase

lemma exclusive_check {foreign : Bool} (h : Exclusive st) (hp : (st.procs p).main = .launched)
    (halone : Alone st (.check p foreign)) :
    Exclusive (st.goto p (if otherDaemon st foreign then .absent else .checked)) := by
  cases hother : otherDaemon st foreign with
  | true => exact exclusive_outside h rfl (fun q => goto_main st p q .absent) rfl
  | false =>
    have hfree : ∀ q, (st.procs q).main.holds = false := by
      intro q
      by_cases hq : q = p
      · subst hq
        rw [hp]
        rfl
      · have hnot := halone hother q hq
        by_contra hheld
        have hsigned : (st.procs q).main = .started ∨ (st.procs q).main = .closing := by
          cases hm : (st.procs q).main <;> simp [hm, Phase.holds, Phase.starting] at hheld hnot ⊢
        have hfile := h.signed q hsigned
        have halive : (st.procs q).main ≠ .absent := by
          intro hm
          rw [hm] at hheld
          exact hheld rfl
        simp [otherDaemon, hfile, pidAlive, halive] at hother
    constructor
    · intro q r hq hr
      rw [goto_main] at hq hr
      by_cases hqp : q = p
      · by_cases hrp : r = p
        · exact hqp.trans hrp.symm
        · rw [if_neg hrp, hfree] at hr
          cases hr
      · rw [if_neg hqp, hfree] at hq
        cases hq
    · intro q hq
      rw [goto_main] at hq
      by_cases hqp : q = p
      · rw [if_pos hqp] at hq
        rcases hq with hq | hq <;> cases hq
      · have hnot := hfree q
        rw [if_neg hqp] at hq
        rcases hq with hq | hq <;> rw [hq] at hnot <;> cases hnot

lemma exclusive_step {l : Label} (h : Exclusive st) (halone : Alone st l)
    (hstep : step st l = some st') : Exclusive st' := by
  cases l with
  | launch p =>
    obtain ⟨hp, hs⟩ := Option.ite_none_right_eq_some.mp hstep
    obtain rfl := Option.some.inj hs
    refine @exclusive_outside _ _ p .launched h rfl (fun q => ?_) rfl
    by_cases hq : q = p
    · subst hq
      simp
    · simp [hq]
  | check p foreign =>
    obtain ⟨hp, hs⟩ := Option.ite_none_right_eq_some.mp hstep
    obtain rfl := Option.some.inj hs
    exact exclusive_check h hp halone
  | unlinkPid p | unlinkSock p | openStore p | reconcileStaleAgents p | waitOnline p
  | truncatePidfile p | closePid p =>
    obtain ⟨hp, hs⟩ := Option.ite_none_right_eq_some.mp hstep
    obtain rfl := Option.some.inj hs
    exact exclusive_holder h (holds_of_main hp rfl) (fun q => goto_main st p q _) (by simp)
  | writePidfile p =>
    obtain ⟨hp, hs⟩ := Option.ite_none_right_eq_some.mp hstep
    obtain rfl := Option.some.inj hs
    exact exclusive_holder h (holds_of_main hp rfl) (fun q => goto_main st p q _) fun _ => rfl
  | ipcUnlink p =>
    obtain ⟨hp, hs⟩ := Option.ite_none_right_eq_some.mp hstep
    obtain rfl := Option.some.inj hs
    exact exclusive_same h (fun q => serve_main st p q _) rfl
  | ipcBind p =>
    obtain ⟨hp, hs⟩ := Option.ite_none_right_eq_some.mp hstep
    split at hs
    · obtain rfl := Option.some.inj hs
      exact exclusive_same h (fun q => serve_main st p q _) rfl
    · obtain rfl := Option.some.inj hs
      exact exclusive_same h (fun q => serve_main st p q _) rfl
  | signal p =>
    obtain ⟨hp, hs⟩ := Option.ite_none_right_eq_some.mp hstep
    obtain rfl := Option.some.inj hs
    exact exclusive_holder h (holds_of_main hp rfl) (fun q => goto_main st p q _)
      fun _ => h.signed p (Or.inl hp)
  | closeSock p | exit p =>
    obtain ⟨hp, hs⟩ := Option.ite_none_right_eq_some.mp hstep
    obtain rfl := Option.some.inj hs
    exact exclusive_outside h rfl (fun q => goto_main st p q _) rfl
  | crash p =>
    obtain ⟨hp, hs⟩ := Option.ite_none_left_eq_some.mp hstep
    obtain rfl := Option.some.inj hs
    exact exclusive_outside h rfl (fun q => goto_main st p q _) rfl

lemma disturbs_holds {l : Label} (hstep : step st l = some st') (hl : l.disturbs st = some p) :
    (st.procs p).main.holds = true := by
  cases l with
  | reconcileStaleAgents q | unlinkSock q =>
    obtain rfl := Option.some.inj hl
    exact holds_of_main (Option.ite_none_right_eq_some.mp hstep).1 rfl
  | ipcUnlink q =>
    obtain ⟨hmain, hq⟩ := Option.ite_none_right_eq_some.mp hl
    obtain rfl := Option.some.inj hq
    exact holds_of_main hmain rfl
  | _ => cases hl

theorem one_daemon_serves {pidFile : Option (Option Pid)} {socket : Option Pid} {ls : List Label}
    (hrun : Run (Guarded Alone (Fires step)) (initial pidFile socket) ls st) :
    (∀ p q, Serving st p → Serving st q → p = q) ∧
    ∀ l st' p, step st l = some st' → l.disturbs st = some p → ∀ q, q ≠ p → ¬ Serving st q := by
  have hinit : Exclusive (initial pidFile socket) :=
    ⟨fun _ _ hp => (by cases hp), fun _ hp => (by rcases hp with hp | hp <;> cases hp)⟩
  have h : Exclusive st := hrun.invariant (fun _ _ _ hi hs => exclusive_step hi hs.1 hs.2) hinit
  refine ⟨fun p q hp hq => h.one p q (holds_of_main hp rfl) (holds_of_main hq rfl), ?_⟩
  intro l st' p hstep hl q hne hq
  exact hne (h.one q p (holds_of_main hq rfl) (disturbs_holds hstep hl))

def afterCheck (p : Pid) : List Label :=
  [.unlinkPid p, .unlinkSock p, .openStore p, .reconcileStaleAgents p, .waitOnline p,
    .truncatePidfile p, .writePidfile p, .ipcUnlink p, .ipcBind p]

def refused (st : State) : Label → Bool
  | .check _ foreign => otherDaemon st foreign
  | _ => true

lemma alone_of_refused {l : Label} (h : refused st l = true) : Alone st l := by
  cases l with
  | check p foreign =>
    intro hother
    rw [refused, hother] at h
    cases h
  | _ => trivial

theorem one_daemon_serves_second_refused : ∃ st,
    Run (Guarded Alone (Fires step)) (initial none none)
      ([.launch 1, .check 1 false] ++ (afterCheck 1 ++ [.launch 2, .check 2 false])) st ∧
    Serving st 1 ∧ ∀ q, Serving st q → q = 1 := by
  have hfirst : Run (Guarded Alone (Fires step)) (initial none none)
      [.launch 1, .check 1 false]
      ⟨Function.update (Function.update (fun _ => ⟨.absent, .idle⟩) 1 ⟨.launched, .idle⟩) 1
        ⟨.checked, .idle⟩, none, none⟩ := by
    refine .cons ⟨trivial, rfl⟩ (.single ⟨fun _ q hq => ?_, ?_⟩)
    · simp [hq, initial, Phase.starting]
    · simp [Fires, step, State.goto, initial, otherDaemon]
  have hrest : (execute (restrict (fun st l => refused st l = true) step)
      ⟨Function.update (Function.update (fun _ => ⟨.absent, .idle⟩) 1 ⟨.launched, .idle⟩) 1
        ⟨.checked, .idle⟩, none, none⟩ (afterCheck 1 ++ [.launch 2, .check 2 false])).map
      (fun st => (st.procs 1).main) = some .started := by
    decide +kernel
  obtain ⟨st, hst, hmain⟩ := Option.map_eq_some_iff.mp hrest
  have hrun := hfirst.append ((execute_restrict_run hst).mono fun _ _ _ hs =>
    ⟨alone_of_refused hs.1, hs.2⟩)
  exact ⟨st, hrun, hmain, fun q hq => (one_daemon_serves hrun).1 q 1 hq hmain⟩

theorem two_daemons_serve : ∃ ls st, Run (Fires step) (initial none none) ls st ∧
    Serving st 1 ∧ (st.procs 1).ipc = .bound ∧ Serving st 2 ∧ (st.procs 2).ipc = .bound := by
  have heval : (execute step (initial none none)
      ([.launch 1, .launch 2, .check 1 false, .check 2 false] ++ (afterCheck 1 ++ afterCheck 2))).map
      (fun st => (st.procs 1, st.procs 2)) = some (⟨.started, .bound⟩, ⟨.started, .bound⟩) := by
    decide +kernel
  obtain ⟨st, hst, heq⟩ := Option.map_eq_some_iff.mp heval
  obtain ⟨hone, htwo⟩ := Prod.mk.inj heq
  refine ⟨_, st, execute_run hst, ?_, ?_, ?_, ?_⟩
  · rw [Serving, hone]
  · rw [hone]
  · rw [Serving, htwo]
  · rw [htwo]

end WalkieTalkie.Daemon.Startup
