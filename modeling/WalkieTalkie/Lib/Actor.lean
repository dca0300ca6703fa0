import Mathlib.Data.Int.Notation
import WalkieTalkie.Lib.Lists
import WalkieTalkie.Lib.Runs

/-! An object owned by one worker. Callers hold handles, put jobs on an unbounded queue and wait for the
answer, each on a slot of its own. The worker runs the jobs in order, and ends once no handle is left
and the queue is empty. A caller may stop waiting at any time; its job stays in the queue. -/

namespace WalkieTalkie.Lib.Actor

open Runs

variable {σ ω ρ : Type}

inductive CallError
  | gone
  | dropped
deriving DecidableEq

inductive Event (ω ρ : Type)
  | invoked (ticket : ℕ) (op : ω)
  | answered (ticket : ℕ) (answer : Except CallError ρ)

def Event.submission : Event ω ρ → Option (ℕ × ω)
  | .invoked t op => some (t, op)
  | .answered .. => none

def submissions (h : List (Event ω ρ)) : List (ℕ × ω) := h.filterMap Event.submission

inductive Caller (ρ : Type)
  | idle
  | waiting (handle : ℕ) (slot : Option ρ)
  | finished

def Caller.deliver (r : ρ) : Caller ρ → Caller ρ
  | .waiting handle _ => .waiting handle (some r)
  | c => c

structure State (σ ω ρ : Type) where
  object : σ
  alive : Bool
  handles : List ℕ
  queue : List (ℕ × ω)
  callers : ℕ → Caller ρ
  history : List (Event ω ρ)
  executed : List (ℕ × ω × ρ)

def initial (object : σ) (handle : ℕ) : State σ ω ρ :=
  ⟨object, true, [handle], [], fun _ => .idle, [], []⟩

def assign (callers : ℕ → Caller ρ) (t : ℕ) (c : Caller ρ) : ℕ → Caller ρ :=
  fun u => if u = t then c else callers u

inductive Label (ω : Type)
  | clone (handle copy : ℕ)
  | release (handle : ℕ)
  | submit (handle ticket : ℕ) (op : ω)
  | work
  | finish
  | receive (ticket : ℕ)
  | abandon (ticket : ℕ)

section

variable (perform : σ → ω → σ → ρ → Prop)

inductive Step : State σ ω ρ → Label ω → State σ ω ρ → Prop
  | clone {s handle copy} (hheld : handle ∈ s.handles) (hfresh : copy ∉ s.handles) :
    Step s (.clone handle copy) { s with handles := copy :: s.handles }
  | release {s handle} (hunused : ∀ t slot, s.callers t ≠ .waiting handle slot) :
    Step s (.release handle) { s with handles := s.handles.erase handle }
  | submit {s handle t op} (hheld : handle ∈ s.handles) (hidle : s.callers t = .idle)
      (halive : s.alive = true) :
    Step s (.submit handle t op)
      { s with
        queue := s.queue ++ [(t, op)]
        callers := assign s.callers t (.waiting handle none)
        history := s.history ++ [.invoked t op] }
  | refuse {s handle t op} (hheld : handle ∈ s.handles) (hidle : s.callers t = .idle)
      (hdead : s.alive = false) :
    Step s (.submit handle t op)
      { s with
        callers := assign s.callers t .finished
        history := s.history ++ [.invoked t op, .answered t (.error .gone)] }
  | work {s t op rest object r} (halive : s.alive = true) (hqueue : s.queue = (t, op) :: rest)
      (hperform : perform s.object op object r) :
    Step s .work
      { s with
        object := object
        queue := rest
        callers := assign s.callers t ((s.callers t).deliver r)
        executed := s.executed ++ [(t, op, r)] }
  | finish {s} (hhandles : s.handles = []) (hqueue : s.queue = []) :
    Step s .finish { s with alive := false }
  | receive {s t handle r} (hslot : s.callers t = .waiting handle (some r)) :
    Step s (.receive t)
      { s with
        callers := assign s.callers t .finished
        history := s.history ++ [.answered t (.ok r)] }
  | drop {s t handle} (hslot : s.callers t = .waiting handle none) (hdead : s.alive = false) :
    Step s (.receive t)
      { s with
        callers := assign s.callers t .finished
        history := s.history ++ [.answered t (.error .dropped)] }
  | abandon {s t handle slot} (hwaiting : s.callers t = .waiting handle slot) :
    Step s (.abandon t) { s with callers := assign s.callers t .finished }

/-- The object alone, each call one step. -/
def Atomic (s : σ) (e : ℕ × ω × ρ) (s' : σ) : Prop := perform s e.2.1 s' e.2.2

end

def job (e : ℕ × ω × ρ) : ℕ × ω := (e.1, e.2.1)

/-- An order of calls that explains a history: every call that was answered is in it with its answer,
and a call that was answered before another was made comes before it. -/
structure Linearization (perform : σ → ω → σ → ρ → Prop) (s₀ s : σ) (h : List (Event ω ρ))
    (order : List (ℕ × ω × ρ)) : Prop where
  legal : Run (Atomic perform) s₀ order s
  once : (order.map Prod.fst).Nodup
  invoked : ∀ e ∈ order, .invoked e.1 e.2.1 ∈ h
  answered : ∀ t answer, .answered t answer ∈ h → ∃ op r, answer = .ok r ∧ (t, op, r) ∈ order
  realTime : ∀ h₁ h₂ t answer, h = h₁ ++ .answered t answer :: h₂ →
    ∃ o₁ o₂, order = o₁ ++ o₂ ∧ t ∈ o₁.map Prod.fst ∧
      ∀ e ∈ order, .invoked e.1 e.2.1 ∈ h₂ → e ∈ o₂

/-- What holds between the queue, the callers and what the worker has done. -/
structure Consistent (perform : σ → ω → σ → ρ → Prop) (s₀ : σ) (s : State σ ω ρ) : Prop where
  legal : Run (Atomic perform) s₀ s.executed s.object
  order : submissions s.history = s.executed.map job ++ s.queue
  tickets : ((submissions s.history).map Prod.fst).Nodup
  fresh : ∀ t, s.callers t = .idle → t ∉ (submissions s.history).map Prod.fst
  held : ∀ t handle slot, s.callers t = .waiting handle slot → handle ∈ s.handles
  slots : ∀ t handle r, s.callers t = .waiting handle (some r) → ∃ op, (t, op, r) ∈ s.executed
  unserved : ∀ t handle, s.callers t = .waiting handle none → ∃ op, (t, op) ∈ s.queue
  answers : ∀ t answer, .answered t answer ∈ s.history →
    ∃ op r, answer = .ok r ∧ (t, op, r) ∈ s.executed
  causal : ∀ h₁ h₂ t answer, s.history = h₁ ++ .answered t answer :: h₂ →
    t ∈ (submissions h₁).map Prod.fst
  ended : s.alive = false → s.handles = [] ∧ s.queue = []

variable {perform : σ → ω → σ → ρ → Prop} {s₀ : σ} {s s' : State σ ω ρ} {a : Label ω}
  {h : List (Event ω ρ)}

@[simp] lemma submissions_append (h h' : List (Event ω ρ)) :
    submissions (h ++ h') = submissions h ++ submissions h' :=
  List.filterMap_append ..

lemma mem_submissions {t : ℕ} {op : ω} : (t, op) ∈ submissions h ↔ .invoked t op ∈ h := by
  rw [submissions, List.mem_filterMap]
  constructor
  · rintro ⟨e, he, hs⟩
    cases e with
    | invoked u op' =>
      obtain ⟨rfl, rfl⟩ := Prod.mk.inj (Option.some.inj hs)
      exact he
    | answered u answer => cases hs
  · intro he
    exact ⟨_, he, rfl⟩

lemma mem_answered_snoc {e : Event ω ρ} {h₁ h₂ : List (Event ω ρ)} {t : ℕ}
    {answer : Except CallError ρ} (heq : h ++ [e] = h₁ ++ .answered t answer :: h₂) :
    (h = h₁ ∧ e = .answered t answer) ∨ ∃ h₂', h = h₁ ++ .answered t answer :: h₂' := by
  rcases List.eq_nil_or_concat h₂ with rfl | ⟨h₂', e', rfl⟩
  · obtain ⟨hh, he⟩ := List.append_inj' heq rfl
    exact Or.inl ⟨hh, (List.cons.inj he).1⟩
  · refine Or.inr ⟨h₂', ?_⟩
    rw [List.concat_eq_append, ← List.cons_append, ← List.append_assoc] at heq
    exact (List.append_inj' heq rfl).1

lemma assign_cases {callers : ℕ → Caller ρ} {t u : ℕ} {c c' : Caller ρ}
    (hc : assign callers t c u = c') : (u = t ∧ c = c') ∨ (u ≠ t ∧ callers u = c') := by
  rw [assign] at hc
  split at hc
  · next hu => exact Or.inl ⟨hu, hc⟩
  · next hu => exact Or.inr ⟨hu, hc⟩

lemma assign_eq {callers : ℕ → Caller ρ} {t u : ℕ} {c c' : Caller ρ} (hne : c ≠ c')
    (hc : assign callers t c u = c') : u ≠ t ∧ callers u = c' :=
  (assign_cases hc).resolve_left fun h => hne h.2

lemma deliver_waiting {c : Caller ρ} {r : ρ} {handle : ℕ} {slot : Option ρ}
    (hc : c.deliver r = .waiting handle slot) :
    slot = some r ∧ ∃ slot', c = .waiting handle slot' := by
  cases c with
  | idle => cases hc
  | waiting handle' slot' =>
    cases hc
    exact ⟨rfl, slot', rfl⟩
  | finished => cases hc

lemma deliver_idle {c : Caller ρ} {r : ρ} (hc : c.deliver r = .idle) : c = .idle := by
  cases c with
  | idle => rfl
  | waiting handle slot => cases hc
  | finished => cases hc

lemma consistent_initial (perform : σ → ω → σ → ρ → Prop) (s₀ : σ) (handle : ℕ) :
    Consistent perform s₀ (initial s₀ handle : State σ ω ρ) where
  legal := .nil
  order := rfl
  tickets := List.nodup_nil
  fresh t _ := List.not_mem_nil
  held t handle slot hw := by cases hw
  slots t handle r hw := by cases hw
  unserved t handle hw := by cases hw
  answers t answer he := by cases he
  causal h₁ h₂ t answer heq := by simp [initial] at heq
  ended hd := by cases hd

namespace Consistent

lemma clone {handle copy : ℕ} (hc : Consistent perform s₀ s) (hheld : handle ∈ s.handles) :
    Consistent perform s₀ { s with handles := copy :: s.handles } :=
  { hc with
    held := fun t handle slot hw => List.mem_cons_of_mem _ (hc.held t handle slot hw)
    ended := fun hd => by
      rw [(hc.ended hd).1] at hheld
      cases hheld }

lemma release {handle : ℕ} (hc : Consistent perform s₀ s)
    (hunused : ∀ t slot, s.callers t ≠ .waiting handle slot) :
    Consistent perform s₀ { s with handles := s.handles.erase handle } :=
  { hc with
    held := fun t handle' slot hw => by
      have hne : handle' ≠ handle := by
        rintro rfl
        exact hunused t slot hw
      exact (List.mem_erase_of_ne hne).mpr (hc.held t handle' slot hw)
    ended := fun hd => by
      obtain ⟨hh, hq⟩ := hc.ended hd
      exact ⟨by simp [hh], hq⟩ }

lemma alive_of_held {handle : ℕ} (hc : Consistent perform s₀ s) (hheld : handle ∈ s.handles) :
    s.alive ≠ false := by
  intro hd
  rw [(hc.ended hd).1] at hheld
  cases hheld

lemma mem_of_executed {e : ℕ × ω × ρ} (hc : Consistent perform s₀ s) (he : e ∈ s.executed) :
    job e ∈ submissions s.history := by
  rw [hc.order]
  exact List.mem_append_left _ (List.mem_map_of_mem he)

lemma submit {handle t : ℕ} {op : ω} (hc : Consistent perform s₀ s)
    (hheld : handle ∈ s.handles) (hidle : s.callers t = .idle) :
    Consistent perform s₀
      { s with
        queue := s.queue ++ [(t, op)]
        callers := assign s.callers t (.waiting handle none)
        history := s.history ++ [.invoked t op] } where
  legal := hc.legal
  order := by
    simp only [submissions_append, hc.order, List.append_assoc]
    rfl
  tickets := by
    simp only [submissions_append]
    refine nodup_map_snoc hc.tickets fun e he heq => ?_
    exact hc.fresh t hidle (List.mem_map.mpr ⟨e, he, heq⟩)
  fresh u hu := by
    obtain ⟨hne, hu⟩ := assign_eq (by simp) hu
    simp only [submissions_append, List.map_append, List.mem_append]
    rintro (hmem | hmem)
    · exact hc.fresh u hu hmem
    · exact hne (List.mem_singleton.mp hmem)
  held u handle' slot hw := by
    rcases assign_cases hw with ⟨_, hsame⟩ | ⟨_, hw⟩
    · cases hsame
      exact hheld
    · exact hc.held u handle' slot hw
  slots u handle' r hw := by
    rcases assign_cases hw with ⟨_, hsame⟩ | ⟨_, hw⟩
    · cases hsame
    · exact hc.slots u handle' r hw
  unserved u handle' hw := by
    rcases assign_cases hw with ⟨rfl, _⟩ | ⟨_, hw⟩
    · exact ⟨op, List.mem_append_right _ (List.mem_singleton_self _)⟩
    · obtain ⟨op', hmem⟩ := hc.unserved u handle' hw
      exact ⟨op', List.mem_append_left _ hmem⟩
  answers u answer he := by
    rcases List.mem_append.mp he with he | he
    · exact hc.answers u answer he
    · cases List.mem_singleton.mp he
  causal h₁ h₂ u answer heq := by
    rcases mem_answered_snoc heq with ⟨_, hne⟩ | ⟨h₂', heq⟩
    · cases hne
    · exact hc.causal h₁ h₂' u answer heq
  ended hd := (hc.alive_of_held hheld hd).elim

lemma work {t : ℕ} {op : ω} {rest : List (ℕ × ω)} {object : σ} {r : ρ}
    (hc : Consistent perform s₀ s) (halive : s.alive = true) (hqueue : s.queue = (t, op) :: rest)
    (hperform : perform s.object op object r) :
    Consistent perform s₀
      { s with
        object := object
        queue := rest
        callers := assign s.callers t ((s.callers t).deliver r)
        executed := s.executed ++ [(t, op, r)] } where
  legal := hc.legal.append (.single hperform)
  order := by
    rw [hc.order, hqueue, List.map_append, List.append_assoc]
    rfl
  tickets := hc.tickets
  fresh u hu := by
    rcases assign_cases hu with ⟨rfl, hu⟩ | ⟨_, hu⟩
    · exact hc.fresh u (deliver_idle hu)
    · exact hc.fresh u hu
  held u handle slot hw := by
    rcases assign_cases hw with ⟨rfl, hw⟩ | ⟨_, hw⟩
    · obtain ⟨_, slot', hw⟩ := deliver_waiting hw
      exact hc.held u handle slot' hw
    · exact hc.held u handle slot hw
  slots u handle r' hw := by
    rcases assign_cases hw with ⟨rfl, hw⟩ | ⟨_, hw⟩
    · obtain ⟨hr, _⟩ := deliver_waiting hw
      cases hr
      exact ⟨op, List.mem_append_right _ (List.mem_singleton_self _)⟩
    · obtain ⟨op', he⟩ := hc.slots u handle r' hw
      exact ⟨op', List.mem_append_left _ he⟩
  unserved u handle hw := by
    rcases assign_cases hw with ⟨rfl, hw⟩ | ⟨hne, hw⟩
    · cases (deliver_waiting hw).1
    · obtain ⟨op', hmem⟩ := hc.unserved u handle hw
      rw [hqueue] at hmem
      rcases List.mem_cons.mp hmem with heq | hmem
      · exact (hne (Prod.mk.inj heq).1).elim
      · exact ⟨op', hmem⟩
  answers u answer he := by
    obtain ⟨op', r', ha, he⟩ := hc.answers u answer he
    exact ⟨op', r', ha, List.mem_append_left _ he⟩
  causal := hc.causal
  ended hd := by
    rw [halive] at hd
    cases hd

lemma finish (hc : Consistent perform s₀ s) (hhandles : s.handles = []) (hqueue : s.queue = []) :
    Consistent perform s₀ { s with alive := false } :=
  { hc with ended := fun _ => ⟨hhandles, hqueue⟩ }

lemma abandon {t : ℕ} (hc : Consistent perform s₀ s) :
    Consistent perform s₀ { s with callers := assign s.callers t .finished } :=
  { hc with
    fresh := fun u hu => hc.fresh u (assign_eq (by simp) hu).2
    held := fun u handle slot hw => hc.held u handle slot (assign_eq (by simp) hw).2
    slots := fun u handle r hw => hc.slots u handle r (assign_eq (by simp) hw).2
    unserved := fun u handle hw => hc.unserved u handle (assign_eq (by simp) hw).2 }

lemma receive {t handle : ℕ} {r : ρ} (hc : Consistent perform s₀ s)
    (hslot : s.callers t = .waiting handle (some r)) :
    Consistent perform s₀
      { s with
        callers := assign s.callers t .finished
        history := s.history ++ [.answered t (.ok r)] } where
  legal := hc.legal
  order := by
    simp only [submissions_append, hc.order]
    exact List.append_nil _
  tickets := by
    simp only [submissions_append]
    exact (List.append_nil (submissions s.history)).symm ▸ hc.tickets
  fresh u hu := by
    simp only [submissions_append]
    exact (List.append_nil (submissions s.history)).symm ▸ hc.fresh u (assign_eq (by simp) hu).2
  held u handle slot hw := hc.held u handle slot (assign_eq (by simp) hw).2
  slots u handle r hw := hc.slots u handle r (assign_eq (by simp) hw).2
  unserved u handle hw := hc.unserved u handle (assign_eq (by simp) hw).2
  answers u answer he := by
    rcases List.mem_append.mp he with he | he
    · exact hc.answers u answer he
    · obtain ⟨rfl, rfl⟩ := Event.answered.inj (List.mem_singleton.mp he)
      obtain ⟨op, hop⟩ := hc.slots u handle r hslot
      exact ⟨op, r, rfl, hop⟩
  causal h₁ h₂ u answer heq := by
    rcases mem_answered_snoc heq with ⟨rfl, he⟩ | ⟨h₂', heq⟩
    · obtain ⟨rfl, rfl⟩ := Event.answered.inj he
      obtain ⟨op, hop⟩ := hc.slots t handle r hslot
      exact List.mem_map_of_mem (hc.mem_of_executed hop)
    · exact hc.causal h₁ h₂' u answer heq
  ended := hc.ended

lemma step (hc : Consistent perform s₀ s) (hs : Step perform s a s') :
    Consistent perform s₀ s' := by
  cases hs with
  | clone hheld _ => exact hc.clone hheld
  | release hunused => exact hc.release hunused
  | submit hheld hidle _ => exact hc.submit hheld hidle
  | refuse hheld _ hdead => exact (hc.alive_of_held hheld hdead).elim
  | work halive hqueue hperform => exact hc.work halive hqueue hperform
  | finish hhandles hqueue => exact hc.finish hhandles hqueue
  | receive hslot => exact hc.receive hslot
  | drop hslot hdead => exact (hc.alive_of_held (hc.held _ _ _ hslot) hdead).elim
  | abandon _ => exact hc.abandon

lemma executed_of_answered (hc : Consistent perform s₀ s) {t : ℕ} {op : ω} {r : ρ}
    (hi : .invoked t op ∈ s.history) (ha : .answered t (.ok r) ∈ s.history) :
    (t, op, r) ∈ s.executed := by
  obtain ⟨op', r', hr, hexec⟩ := hc.answers t _ ha
  have hsame := List.inj_on_of_nodup_map hc.tickets (mem_submissions.mpr hi)
    (hc.mem_of_executed hexec) rfl
  obtain ⟨_, rfl⟩ := Prod.mk.inj hsame
  obtain rfl := Except.ok.inj hr
  exact hexec

lemma once (hc : Consistent perform s₀ s) : (s.executed.map Prod.fst).Nodup := by
  have hsub : s.executed.map Prod.fst = (s.executed.map job).map Prod.fst := by
    rw [List.map_map]
    rfl
  rw [hsub]
  refine hc.tickets.sublist ?_
  rw [hc.order]
  exact (List.sublist_append_left _ _).map _

section

variable {h₁ h₂ : List (Event ω ρ)}

lemma before_or_after (hc : Consistent perform s₀ s) (heq : submissions s.history =
    submissions h₁ ++ submissions h₂) {e : ℕ × ω × ρ} :
    (e ∈ s.executed.take (submissions h₁).length → job e ∈ submissions h₁) ∧
      (e ∈ s.executed.drop (submissions h₁).length → job e ∈ submissions h₂) := by
  have hsplit : submissions h₁ ++ submissions h₂ = s.executed.map job ++ s.queue :=
    heq.symm.trans hc.order
  constructor
  · intro he
    have htake := congrArg (List.take (submissions h₁).length) hsplit
    rw [List.take_left, List.take_append, ← List.map_take] at htake
    rw [htake]
    exact List.mem_append_left _ (List.mem_map_of_mem he)
  · intro he
    have hdrop := congrArg (List.drop (submissions h₁).length) hsplit
    rw [List.drop_left, List.drop_append, ← List.map_drop] at hdrop
    rw [hdrop]
    exact List.mem_append_left _ (List.mem_map_of_mem he)

lemma not_both (hc : Consistent perform s₀ s)
    (heq : submissions s.history = submissions h₁ ++ submissions h₂) {x y : ℕ × ω}
    (hx : x ∈ submissions h₁) (hy : y ∈ submissions h₂) : x.1 ≠ y.1 := by
  have hnodup := hc.tickets
  rw [heq, List.map_append, List.nodup_append] at hnodup
  exact hnodup.2.2 _ (List.mem_map_of_mem hx) _ (List.mem_map_of_mem hy)

lemma realTime (hc : Consistent perform s₀ s) {t : ℕ} {answer : Except CallError ρ}
    (heq : s.history = h₁ ++ .answered t answer :: h₂) :
    ∃ o₁ o₂, s.executed = o₁ ++ o₂ ∧ t ∈ o₁.map Prod.fst ∧
      ∀ e ∈ s.executed, .invoked e.1 e.2.1 ∈ h₂ → e ∈ o₂ := by
  have hsub : submissions s.history = submissions h₁ ++ submissions h₂ := by
    rw [heq, submissions_append]
    rfl
  have hcases : ∀ e ∈ s.executed, e ∈ s.executed.take (submissions h₁).length ∨
      e ∈ s.executed.drop (submissions h₁).length := by
    intro e he
    rwa [← List.mem_append, List.take_append_drop]
  refine ⟨_, _, (List.take_append_drop (submissions h₁).length s.executed).symm, ?_, ?_⟩
  · obtain ⟨op, r, _, hexec⟩ := hc.answers t answer (by simp [heq])
    obtain ⟨x, hx, hxt⟩ := List.mem_map.mp (hc.causal h₁ h₂ t answer heq)
    rcases hcases _ hexec with he | he
    · exact List.mem_map_of_mem he
    · exact (hc.not_both hsub hx ((hc.before_or_after hsub).2 he) hxt).elim
  · intro e he hinv
    rcases hcases e he with he | he
    · have hx := (hc.before_or_after hsub).1 he
      exact (hc.not_both hsub hx (mem_submissions.mpr hinv) rfl).elim
    · exact he

end

lemma linearization (hc : Consistent perform s₀ s) :
    Linearization perform s₀ s.object s.history s.executed where
  legal := hc.legal
  once := hc.once
  invoked _ he := mem_submissions.mp (hc.mem_of_executed he)
  answered := hc.answers
  realTime _ _ _ _ heq := hc.realTime heq

end Consistent

variable {labels : List (Label ω)} {handle : ℕ}

lemma consistent (hr : Run (Step perform) (initial s₀ handle) labels s) :
    Consistent perform s₀ s :=
  hr.invariant (fun _ _ _ hc hs => hc.step hs) (consistent_initial perform s₀ handle)

lemma Consistent.progress (hc : Consistent perform s₀ s)
    (htotal : ∀ o op, ∃ o' r, perform o op o' r) {t handle : ℕ}
    (hw : s.callers t = .waiting handle none) : ∃ s', Step perform s .work s' := by
  obtain ⟨op, hmem⟩ := hc.unserved t handle hw
  have halive : s.alive = true :=
    (Bool.not_eq_false _).mp (hc.alive_of_held (hc.held t handle none hw))
  cases hqueue : s.queue with
  | nil =>
    rw [hqueue] at hmem
    cases hmem
  | cons j rest =>
    obtain ⟨object, r, hperform⟩ := htotal s.object j.2
    exact ⟨_, .work halive hqueue hperform⟩

/-- Calls that give out numbers, each above a mark of the object that no call lowers. -/
structure Counter (perform : σ → ω → σ → ρ → Prop) (mark : σ → ℤ) (gives : ω → ρ → ℤ → Prop) :
    Prop where
  mono : ∀ o op o' r, perform o op o' r → mark o ≤ mark o'
  above : ∀ o op o' r n, perform o op o' r → gives op r n → mark o < n ∧ n ≤ mark o'

def Ascends (gives : ω → ρ → ℤ → Prop) (e e' : ℕ × ω × ρ) : Prop :=
  ∀ n n', gives e.2.1 e.2.2 n → gives e'.2.1 e'.2.2 n' → n < n'

namespace Counter

variable {mark : σ → ℤ} {gives : ω → ρ → ℤ → Prop} {o o' : σ} {order : List (ℕ × ω × ρ)}

lemma ascending (hc : Counter perform mark gives) (hr : Run (Atomic perform) o order o') :
    (∀ e ∈ order, ∀ n, gives e.2.1 e.2.2 n → mark o < n) ∧
      order.Pairwise (Ascends gives) := by
  induction hr with
  | nil =>
    constructor
    · intro e he
      cases he
    · exact List.Pairwise.nil
  | cons hs _ ih =>
    obtain ⟨habove, hpair⟩ := ih
    refine ⟨fun e he n hn => ?_, List.pairwise_cons.mpr ⟨fun e he n n' hn hn' => ?_, hpair⟩⟩
    · rcases List.mem_cons.mp he with rfl | he
      · exact (hc.above _ _ _ _ n hs hn).1
      · exact Int.lt_of_le_of_lt (hc.mono _ _ _ _ hs) (habove e he n hn)
    · exact Int.lt_of_le_of_lt (hc.above _ _ _ _ n hs hn).2 (habove e he n' hn')

lemma realTime (hc : Counter perform mark gives) (hl : Linearization perform o o' h order)
    {e e' : ℕ × ω × ρ} {n n' : ℤ} (he : e ∈ order) (he' : e' ∈ order)
    (hn : gives e.2.1 e.2.2 n) (hn' : gives e'.2.1 e'.2.2 n') :
    (e ≠ e' → n ≠ n') ∧ ∀ h₁ h₂ answer, h = h₁ ++ .answered e.1 answer :: h₂ →
      .invoked e'.1 e'.2.1 ∈ h₂ → n < n' := by
  have hpair := (hc.ascending hl.legal).2
  constructor
  · rintro hne rfl
    obtain ⟨before, after, rfl⟩ := List.append_of_mem he
    obtain ⟨_, htail, hacross⟩ := List.pairwise_append.mp hpair
    rcases List.mem_append.mp he' with hm | hm
    · exact Int.lt_irrefl n (hacross _ hm _ (List.mem_cons_self ..) n n hn' hn)
    · rcases List.mem_cons.mp hm with rfl | hm
      · exact hne rfl
      · exact Int.lt_irrefl n ((List.pairwise_cons.mp htail).1 _ hm n n hn hn')
  · intro h₁ h₂ answer heq hinv
    obtain ⟨o₁, o₂, hsplit, ht, hafter⟩ := hl.realTime h₁ h₂ e.1 answer heq
    obtain ⟨x, hx, hxt⟩ := List.mem_map.mp ht
    have hmem : x ∈ order := by
      rw [hsplit]
      exact List.mem_append_left _ hx
    obtain rfl := List.inj_on_of_nodup_map hl.once hmem he hxt
    rw [hsplit] at hpair
    exact (List.pairwise_append.mp hpair).2.2 _ hx _ (hafter e' he' hinv) n n' hn hn'

end Counter

end WalkieTalkie.Lib.Actor
