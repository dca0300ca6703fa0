import Mathlib.Algebra.Group.Int.Defs
import Mathlib.Data.List.MinMax
import WalkieTalkie.Lib.Lists

/-! Numbers given out one after the other, each one more than the greatest so far. -/

namespace WalkieTalkie.Lib

/-- The first number is 1, the second 2, and so on. -/
def Dense (ns : List ℤ) : Prop := ∀ (k : ℕ) (n : ℤ), ns[k]? = some n → n = k + 1

variable {ns : List ℤ}

lemma dense_nil : Dense [] := fun k n h => by simp at h

lemma Dense.snoc (h : Dense ns) : Dense (ns ++ [(ns.length : ℤ) + 1]) := by
  intro k n hk
  rcases getElem?_snoc_cases hk with hk | ⟨rfl, rfl⟩
  · exact h k n hk
  · rfl

lemma Dense.max (h : Dense ns) : ns.max?.getD 0 = ns.length := by
  cases hmax : ns.max? with
  | none =>
    rw [List.max?_eq_none_iff] at hmax
    subst hmax
    rfl
  | some m =>
    obtain ⟨hmem, hub⟩ := List.max?_eq_some_iff.mp hmax
    obtain ⟨k, hk⟩ := List.mem_iff_getElem?.mp hmem
    obtain ⟨hlt, _⟩ := List.getElem?_eq_some_iff.mp hk
    have hm := h k m hk
    obtain ⟨n, hn⟩ : ∃ n, ns[ns.length - 1]? = some n :=
      ⟨_, List.getElem?_eq_getElem (Nat.sub_lt (Nat.zero_lt_of_lt hlt) Nat.one_pos)⟩
    have hlast := h _ n hn
    have hle := hub n (List.mem_of_getElem? hn)
    rw [Option.getD_some]
    omega

end WalkieTalkie.Lib
