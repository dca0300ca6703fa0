import Mathlib.Data.List.Basic

/-! Finite runs of labelled transition systems, the invariant rule for them, and runs whose steps
all meet a condition on the state before the step. -/

namespace WalkieTalkie.Lib.Runs

variable {σ ℓ : Type}

inductive Run (step : σ → ℓ → σ → Prop) : σ → List ℓ → σ → Prop
  | nil {s} : Run step s [] s
  | cons {s t u a as} : step s a t → Run step t as u → Run step s (a :: as) u

def Guarded (cond : σ → ℓ → Prop) (step : σ → ℓ → σ → Prop) (s : σ) (a : ℓ) (t : σ) : Prop :=
  cond s a ∧ step s a t

def Fires (step : σ → ℓ → Option σ) (s : σ) (a : ℓ) (t : σ) : Prop :=
  step s a = some t

def execute (step : σ → ℓ → Option σ) : σ → List ℓ → Option σ
  | s, [] => some s
  | s, a :: as => (step s a).bind fun t => execute step t as

def restrict (cond : σ → ℓ → Prop) [∀ s a, Decidable (cond s a)] (step : σ → ℓ → Option σ)
    (s : σ) (a : ℓ) : Option σ :=
  if cond s a then step s a else none

variable {step : σ → ℓ → σ → Prop} {s t u : σ} {as bs : List ℓ}

lemma Run.single {a : ℓ} (h : step s a t) : Run step s [a] t :=
  .cons h .nil

lemma Run.of_single {a : ℓ} (h : Run step s [a] t) : step s a t := by
  cases h with
  | cons hs hr =>
    cases hr
    exact hs

lemma Run.append (h : Run step s as t) (h' : Run step t bs u) : Run step s (as ++ bs) u := by
  induction h with
  | nil => exact h'
  | cons hs _ ih => exact .cons hs (ih h')

lemma Run.mono {step' : σ → ℓ → σ → Prop} (hs : ∀ s a t, step s a t → step' s a t)
    (h : Run step s as t) : Run step' s as t := by
  induction h with
  | nil => exact .nil
  | cons he _ ih => exact .cons (hs _ _ _ he) ih

lemma Run.forget {cond : σ → ℓ → Prop} (h : Run (Guarded cond step) s as t) : Run step s as t :=
  h.mono fun _ _ _ he => he.2

lemma Run.guard {p : ℓ → Prop} (h : Run step s as t) (hp : ∀ a ∈ as, p a) :
    Run (Guarded (fun _ a => p a) step) s as t := by
  induction h with
  | nil => exact .nil
  | cons hs _ ih =>
    refine .cons ⟨hp _ (List.mem_cons_self ..), hs⟩ (ih fun a ha => ?_)
    exact hp a (List.mem_cons_of_mem _ ha)

lemma Run.invariant {I : σ → Prop} (hstep : ∀ s a t, I s → step s a t → I t)
    (h : Run step s as t) (hi : I s) : I t := by
  induction h with
  | nil => exact hi
  | cons hs _ ih => exact ih (hstep _ _ _ hi hs)

lemma Run.related {R : σ → σ → Prop} (hrefl : ∀ s, R s s) (htrans : ∀ s t u, R s t → R t u → R s u)
    (hstep : ∀ s a t, step s a t → R s t) (h : Run step s as t) : R s t := by
  induction h with
  | nil => exact hrefl _
  | cons hs _ ih => exact htrans _ _ _ (hstep _ _ _ hs) ih

lemma Run.split (h : Run step s (as ++ bs) u) : ∃ t, Run step s as t ∧ Run step t bs u := by
  induction as generalizing s with
  | nil => exact ⟨s, .nil, h⟩
  | cons a as ih =>
    cases h with
    | cons hs hr =>
      obtain ⟨t, ht, hu⟩ := ih hr
      exact ⟨t, .cons hs ht, hu⟩

lemma execute_run {step : σ → ℓ → Option σ} (h : execute step s as = some t) :
    Run (Fires step) s as t := by
  induction as generalizing s with
  | nil =>
    obtain rfl := Option.some.inj h
    exact .nil
  | cons a as ih =>
    obtain ⟨r, hr, ht⟩ := Option.bind_eq_some_iff.mp h
    exact .cons hr (ih ht)

lemma execute_restrict_run {cond : σ → ℓ → Prop} [∀ s a, Decidable (cond s a)]
    {step : σ → ℓ → Option σ} (h : execute (restrict cond step) s as = some t) :
    Run (Guarded cond (Fires step)) s as t := by
  refine (execute_run h).mono fun s a t he => ?_
  rw [Fires, restrict] at he
  split at he
  · next hc => exact ⟨hc, he⟩
  · cases he

end WalkieTalkie.Lib.Runs
