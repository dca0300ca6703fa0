import Mathlib.Data.List.Basic

/-! Upgrades of a stored object by an append-only list of steps, each of which changes nothing once it
has been applied. An upgrade that starts too early is as good as one that starts in time. -/

namespace WalkieTalkie.Lib.Upgrades

variable {σ ε : Type}

def runSteps (steps : List (σ → Except ε σ)) (s : σ) : Except ε σ :=
  steps.foldlM (fun s f => f s) s

/-- After any number of steps, none of those that were applied changes anything. -/
def Settles (steps : List (σ → Except ε σ)) (s₀ : σ) : Prop :=
  ∀ m s, runSteps (steps.take m) s₀ = .ok s → ∀ f ∈ steps.take m, f s = .ok s

variable {steps fs gs : List (σ → Except ε σ)} {s₀ s s' : σ} {v m n : ℕ}

lemma runSteps_append (fs gs : List (σ → Except ε σ)) (s : σ) :
    runSteps (fs ++ gs) s = (runSteps fs s).bind (runSteps gs) :=
  List.foldlM_append

lemma runSteps_idle (h : ∀ f ∈ fs, f s = .ok s) : runSteps fs s = .ok s := by
  induction fs with
  | nil => rfl
  | cons f fs ih =>
    rw [runSteps, List.foldlM_cons, h f (List.mem_cons_self ..)]
    exact ih fun g hg => h g (List.mem_cons_of_mem _ hg)

lemma runSteps_take_of_le (hs : runSteps (steps.take n) s₀ = .ok s') (hle : m ≤ n) :
    ∃ s, runSteps (steps.take m) s₀ = .ok s ∧
      runSteps ((steps.take n).drop m) s = .ok s' := by
  rw [← List.take_append_drop m (steps.take n), List.take_take, Nat.min_eq_left hle,
    runSteps_append] at hs
  cases hm : runSteps (steps.take m) s₀ with
  | error e =>
    rw [hm] at hs
    cases hs
  | ok s =>
    rw [hm] at hs
    exact ⟨s, rfl, hs⟩

lemma drop_take_split {α : Type} {xs : List α} (hv : v ≤ m) (hm : m ≤ n) :
    (xs.take n).drop v = (xs.take m).drop v ++ (xs.take n).drop m := by
  have hwhole : xs.take n = xs.take m ++ (xs.take n).drop m := by
    have h := List.take_append_drop m (xs.take n)
    rw [List.take_take, Nat.min_eq_left hm] at h
    exact h.symm
  have hrest : ((xs.take n).drop m).drop (v - (xs.take m).length) = (xs.take n).drop m := by
    by_cases hlen : v ≤ xs.length
    · rw [List.length_take, Nat.sub_eq_zero_of_le (Nat.le_min.mpr ⟨hv, hlen⟩)]
      rfl
    · have hnil : (xs.take n).drop m = [] :=
        List.drop_eq_nil_of_le (by rw [List.length_take]; omega)
      rw [hnil, List.drop_nil]
  conv_lhs => rw [hwhole]
  rw [List.drop_append, hrest]

/-- An upgrade to `n` from a version `v` that is not ahead of the `m` steps already applied. -/
lemma catch_up (hset : Settles steps s₀) (hm : runSteps (steps.take m) s₀ = .ok s)
    (hmax : runSteps (steps.take (max m n)) s₀ = .ok s') (hv : v ≤ m) :
    runSteps ((steps.take n).drop v) s = .ok s' := by
  by_cases hle : n ≤ m
  · rw [Nat.max_eq_left hle, hm] at hmax
    obtain rfl := Except.ok.inj hmax
    refine runSteps_idle fun f hf => hset m s hm f ?_
    exact (List.take_prefix_take_left hle).subset (List.mem_of_mem_drop hf)
  · have hlt : m ≤ n := Nat.le_of_not_le hle
    rw [Nat.max_eq_right hlt] at hmax
    obtain ⟨t, ht, hrest⟩ := runSteps_take_of_le hmax hlt
    obtain rfl := Except.ok.inj (hm.symm.trans ht)
    rw [drop_take_split hv hlt, runSteps_append, runSteps_idle fun f hf => hset m s hm f (List.mem_of_mem_drop hf)]
    exact hrest

end WalkieTalkie.Lib.Upgrades
