import WalkieTalkie.Lib.Runs

/-! What an observer can tell from a run. The observer owns some of the labels and sees a view of the
state. If the owned steps can be replayed on the view alone and the others leave it as it is, then two
runs with the same owned labels end in the same view. -/

namespace WalkieTalkie.Lib.Runs

variable {σ τ ℓ : Type}

structure Unwinds (step : σ → ℓ → Option σ) (replay : τ → ℓ → Option τ) (view : σ → τ)
    (own : ℓ → Bool) (cond : ℓ → Prop) (I : σ → Prop) : Prop where
  keeps : ∀ s l t, I s → cond l → step s l = some t → I t
  replays : ∀ s l t, I s → cond l → step s l = some t → own l = true →
    replay (view s) l = some (view t)
  hides : ∀ s l t, I s → cond l → step s l = some t → own l = false → view t = view s

variable {step : σ → ℓ → Option σ} {replay : τ → ℓ → Option τ} {view : σ → τ} {own : ℓ → Bool}
  {cond : ℓ → Prop} {I : σ → Prop}

lemma Unwinds.replay_run (h : Unwinds step replay view own cond I) {s t : σ} {ls : List ℓ}
    (hrun : Run (Guarded (fun _ l => cond l) (Fires step)) s ls t) (hi : I s) :
    execute replay (view s) (ls.filter own) = some (view t) := by
  induction hrun with
  | nil => rfl
  | @cons s u t l ls hs _ ih =>
    have hrest := ih (h.keeps s l u hi hs.1 hs.2)
    cases ho : own l with
    | true =>
      rw [List.filter_cons_of_pos ho, execute, h.replays s l u hi hs.1 hs.2 ho]
      exact hrest
    | false =>
      rw [List.filter_cons_of_neg (by simp [ho]), ← h.hides s l u hi hs.1 hs.2 ho]
      exact hrest

lemma Unwinds.same_view (h : Unwinds step replay view own cond I) {s t t' : σ} {ls ls' : List ℓ}
    (hi : I s) (hrun : Run (Guarded (fun _ l => cond l) (Fires step)) s ls t)
    (hrun' : Run (Guarded (fun _ l => cond l) (Fires step)) s ls' t')
    (hsame : ls.filter own = ls'.filter own) : view t = view t' := by
  have hview := h.replay_run hrun hi
  rw [hsame, h.replay_run hrun' hi] at hview
  exact (Option.some.inj hview).symm

end WalkieTalkie.Lib.Runs
