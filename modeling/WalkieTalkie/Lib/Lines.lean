import Mathlib.Data.List.Basic

/-! A stream that is framed by a separator. `lines` are its finished lines, each with the separator at
its end, and `unfinished` is what follows the last of them; both begin with the `line` that was
started before. -/

namespace WalkieTalkie.Lib.Lines

variable {α β : Type} [DecidableEq α]

def lines (sep : α) (line : List α) : List α → List (List α)
  | [] => []
  | a :: as => if a = sep then (line ++ [a]) :: lines sep [] as else lines sep (line ++ [a]) as

def unfinished (sep : α) (line : List α) : List α → List α
  | [] => line
  | a :: as => if a = sep then unfinished sep [] as else unfinished sep (line ++ [a]) as

/-- The first line that `f` makes something of, and what follows it. -/
def takeLine (sep : α) (f : List α → Option β) (line : List α) : List α → Option β × List α
  | [] => (none, line)
  | a :: as =>
    if a = sep then
      match f (line ++ [a]) with
      | some b => (some b, as)
      | none => takeLine sep f [] as
    else takeLine sep f (line ++ [a]) as

variable {sep : α} {f : List α → Option β}

lemma lines_append (line xs ys : List α) :
    lines sep line (xs ++ ys) = lines sep line xs ++ lines sep (unfinished sep line xs) ys := by
  induction xs generalizing line with
  | nil => rfl
  | cons x xs ih =>
    rw [List.cons_append, lines, lines, unfinished]
    split
    · rw [ih, List.cons_append]
    · exact ih _

lemma unfinished_append (line xs ys : List α) :
    unfinished sep line (xs ++ ys) = unfinished sep (unfinished sep line xs) ys := by
  induction xs generalizing line with
  | nil => rfl
  | cons x xs ih =>
    rw [List.cons_append, unfinished, unfinished]
    split
    · exact ih _
    · exact ih _

lemma lines_of_not_mem {xs : List α} (h : sep ∉ xs) (line : List α) : lines sep line xs = [] := by
  induction xs generalizing line with
  | nil => rfl
  | cons x xs ih =>
    obtain ⟨hx, hxs⟩ := not_or.mp (mt List.mem_cons.mpr h)
    rw [lines, if_neg (Ne.symm hx)]
    exact ih hxs _

lemma unfinished_of_not_mem {xs : List α} (h : sep ∉ xs) (line : List α) :
    unfinished sep line xs = line ++ xs := by
  induction xs generalizing line with
  | nil => exact (List.append_nil _).symm
  | cons x xs ih =>
    obtain ⟨hx, hxs⟩ := not_or.mp (mt List.mem_cons.mpr h)
    rw [unfinished, if_neg (Ne.symm hx), ih hxs, List.append_assoc]
    rfl

lemma not_mem_unfinished {line : List α} (h : sep ∉ line) (xs : List α) :
    sep ∉ unfinished sep line xs := by
  induction xs generalizing line with
  | nil => exact h
  | cons x xs ih =>
    rw [unfinished]
    split
    · exact ih List.not_mem_nil
    · next hx =>
      refine ih fun hmem => ?_
      rcases List.mem_append.mp hmem with hmem | hmem
      · exact h hmem
      · exact hx (List.mem_singleton.mp hmem).symm

lemma lines_unfinished (xs : List α) : lines sep [] (unfinished sep [] xs) = [] :=
  lines_of_not_mem (not_mem_unfinished List.not_mem_nil xs) []

lemma unfinished_unfinished (xs : List α) :
    unfinished sep [] (unfinished sep [] xs) = unfinished sep [] xs :=
  unfinished_of_not_mem (not_mem_unfinished List.not_mem_nil xs) []

lemma takeLine_some {line xs rest : List α} {b : β} (h : takeLine sep f line xs = (some b, rest)) :
    (lines sep line xs).filterMap f = b :: (lines sep [] rest).filterMap f ∧
      unfinished sep line xs = unfinished sep [] rest := by
  induction xs generalizing line with
  | nil => cases h
  | cons x xs ih =>
    rw [takeLine] at h
    rw [lines, unfinished]
    split
    · next hx =>
      rw [if_pos hx] at h
      split at h
      · next hb =>
        cases h
        exact ⟨List.filterMap_cons_some hb, rfl⟩
      · next hb =>
        rw [List.filterMap_cons_none hb]
        exact ih h
    · next hx =>
      rw [if_neg hx] at h
      exact ih h

lemma takeLine_none {line xs rest : List α} (h : takeLine sep f line xs = (none, rest)) :
    (lines sep line xs).filterMap f = [] ∧ rest = unfinished sep line xs := by
  induction xs generalizing line with
  | nil =>
    cases h
    exact ⟨rfl, rfl⟩
  | cons x xs ih =>
    rw [takeLine] at h
    rw [lines, unfinished]
    split
    · next hx =>
      rw [if_pos hx] at h
      split at h
      · cases h
      · next hb =>
        rw [List.filterMap_cons_none hb]
        exact ih h
    · next hx =>
      rw [if_neg hx] at h
      exact ih h

lemma takeLine_front {line xs rest : List α} {b : β} (h : takeLine sep f line xs = (some b, rest)) :
    ∃ front, front ≠ [] ∧ xs = front ++ rest := by
  induction xs generalizing line with
  | nil => cases h
  | cons x xs ih =>
    have hmore : ∀ {line}, takeLine sep f line xs = (some b, rest) →
        ∃ front, front ≠ [] ∧ x :: xs = front ++ rest := by
      intro line h
      obtain ⟨front, _, rfl⟩ := ih h
      exact ⟨x :: front, List.cons_ne_nil _ _, rfl⟩
    rw [takeLine] at h
    split at h
    · split at h
      · cases h
        exact ⟨[x], List.cons_ne_nil _ _, rfl⟩
      · exact hmore h
    · exact hmore h

lemma unfinished_suffix_append (line xs : List α) : unfinished sep line xs <:+ line ++ xs := by
  induction xs generalizing line with
  | nil =>
    rw [List.append_nil]
    exact List.suffix_refl _
  | cons x xs ih =>
    rw [unfinished]
    split
    · exact List.suffix_append_of_suffix ((ih []).trans (List.suffix_cons _ _))
    · have hx := ih (line ++ [x])
      rwa [List.append_assoc] at hx

lemma unfinished_suffix (xs : List α) : unfinished sep [] xs <:+ xs :=
  unfinished_suffix_append [] xs

end WalkieTalkie.Lib.Lines
