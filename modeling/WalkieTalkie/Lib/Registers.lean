import Mathlib.Logic.Basic

/-! A register of what is open, by owner and label, that keeps no counts. When it is true of what is
open, these are the changes after which it is true again. -/

namespace WalkieTalkie.Lib

@[ext]
structure Register (κ μ : Type) where
  listed : κ → μ → Prop
  known : κ → Prop

namespace Register

variable {κ μ : Type}

def enter (r : Register κ μ) (k : κ) (l : μ) : Register κ μ where
  listed k' l' := r.listed k' l' ∨ (k' = k ∧ l' = l)
  known k' := r.known k' ∨ k' = k

def forget (r : Register κ μ) (k : κ) (l : μ) : Register κ μ where
  listed k' l' := r.listed k' l' ∧ ¬ (k' = k ∧ l' = l)
  known := r.known

def leave (r : Register κ μ) (k : κ) : Register κ μ where
  listed k' l' := r.listed k' l' ∧ k' ≠ k
  known k' := r.known k' ∧ k' ≠ k

structure Truthful (r : Register κ μ) (opened : κ → μ → Prop) : Prop where
  listed : ∀ k l, r.listed k l ↔ opened k l
  known : ∀ k, r.known k ↔ ∃ l, opened k l

variable {r : Register κ μ} {opened opened' : κ → μ → Prop} {k : κ} {l : μ}

lemma Truthful.enter (h : r.Truthful opened)
    (ho : ∀ k' l', opened' k' l' ↔ opened k' l' ∨ (k' = k ∧ l' = l)) :
    (r.enter k l).Truthful opened' := by
  refine ⟨fun k' l' => ?_, fun k' => ?_⟩
  · rw [ho, ← h.listed]
    rfl
  · constructor
    · rintro (hknown | rfl)
      · obtain ⟨l', hl'⟩ := (h.known k').mp hknown
        exact ⟨l', (ho k' l').mpr (Or.inl hl')⟩
      · exact ⟨l, (ho k' l).mpr (Or.inr ⟨rfl, rfl⟩)⟩
    · rintro ⟨l', hl'⟩
      rcases (ho k' l').mp hl' with hl' | ⟨rfl, _⟩
      · exact Or.inl ((h.known k').mpr ⟨l', hl'⟩)
      · exact Or.inr rfl

lemma Truthful.keep_iff (h : r.Truthful opened) :
    r.Truthful opened' ↔ ∀ k l, opened k l ↔ opened' k l := by
  constructor
  · exact fun h' k l => (h.listed k l).symm.trans (h'.listed k l)
  · intro hsame
    refine ⟨fun k l => (h.listed k l).trans (hsame k l), fun k => (h.known k).trans ?_⟩
    exact exists_congr fun l => hsame k l

lemma Truthful.forget_iff (h : r.Truthful opened)
    (ho : ∀ k' l', opened k' l' ↔ opened' k' l' ∨ (k' = k ∧ l' = l)) :
    (r.forget k l).Truthful opened' ↔ ¬ opened' k l ∧ ∃ l', opened' k l' := by
  constructor
  · intro h'
    refine ⟨fun hkl => ((h'.listed k l).mpr hkl).2 ⟨rfl, rfl⟩, (h'.known k).mp ?_⟩
    exact (h.known k).mpr ⟨l, (ho k l).mpr (Or.inr ⟨rfl, rfl⟩)⟩
  · rintro ⟨hlast, hother⟩
    refine ⟨fun k' l' => ?_, fun k' => ?_⟩
    · constructor
      · rintro ⟨hlisted, hne⟩
        exact ((ho k' l').mp ((h.listed k' l').mp hlisted)).resolve_right hne
      · intro hopened
        refine ⟨(h.listed k' l').mpr ((ho k' l').mpr (Or.inl hopened)), ?_⟩
        rintro ⟨rfl, rfl⟩
        exact hlast hopened
    · refine (h.known k').trans ⟨?_, fun hopened => ?_⟩
      · rintro ⟨l', hl'⟩
        rcases (ho k' l').mp hl' with hl' | ⟨rfl, _⟩
        · exact ⟨l', hl'⟩
        · exact hother
      · obtain ⟨l', hl'⟩ := hopened
        exact ⟨l', (ho k' l').mpr (Or.inl hl')⟩

lemma Truthful.forget_closed_iff (h : r.Truthful opened) :
    (r.forget k l).Truthful opened ↔ ¬ opened k l := by
  constructor
  · exact fun h' hkl => ((h'.listed k l).mpr hkl).2 ⟨rfl, rfl⟩
  · intro hclosed
    refine ⟨fun k' l' => ?_, h.known⟩
    constructor
    · exact fun hlisted => (h.listed k' l').mp hlisted.1
    · intro hopened
      refine ⟨(h.listed k' l').mpr hopened, ?_⟩
      rintro ⟨rfl, rfl⟩
      exact hclosed hopened

lemma Truthful.leave_iff (h : r.Truthful opened)
    (ho : ∀ k', k' ≠ k → ∀ l', opened k' l' ↔ opened' k' l') :
    (r.leave k).Truthful opened' ↔ ∀ l', ¬ opened' k l' := by
  constructor
  · exact fun h' l' hl' => ((h'.listed k l').mpr hl').2 rfl
  · intro hnone
    refine ⟨fun k' l' => ?_, fun k' => ?_⟩
    · by_cases hk : k' = k
      · subst hk
        exact ⟨fun hlisted => absurd rfl hlisted.2, fun hl' => absurd hl' (hnone l')⟩
      · rw [← ho k' hk l', ← h.listed]
        exact and_iff_left hk
    · by_cases hk : k' = k
      · subst hk
        refine ⟨fun hknown => absurd rfl hknown.2, ?_⟩
        rintro ⟨l', hl'⟩
        exact absurd hl' (hnone l')
      · refine (and_iff_left hk).trans ((h.known k').trans ?_)
        exact exists_congr fun l' => ho k' hk l'

end Register

end WalkieTalkie.Lib
