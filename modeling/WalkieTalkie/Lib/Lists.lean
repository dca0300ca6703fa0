import Mathlib.Data.List.Nodup

/-! Lists that change at one position or at their end. -/

namespace WalkieTalkie.Lib

lemma forall_mem_set {α : Type} {p : α → Prop} {xs : List α} {k : ℕ} {a : α}
    (h : ∀ x ∈ xs, p x) (ha : p a) : ∀ x ∈ xs.set k a, p x := by
  intro x hx
  rcases List.mem_or_eq_of_mem_set hx with hx | rfl
  · exact h x hx
  · exact ha

lemma forall_mem_snoc {α : Type} {p : α → Prop} {xs : List α} {a : α}
    (h : ∀ x ∈ xs, p x) (ha : p a) : ∀ x ∈ xs ++ [a], p x := by
  intro x hx
  rcases List.mem_append.mp hx with hx | hx
  · exact h x hx
  · rwa [List.mem_singleton.mp hx]

lemma map_set_same {α β : Type} {f : α → β} {xs : List α} {k : ℕ} {a a' : α}
    (hk : xs[k]? = some a) (hf : f a' = f a) : (xs.set k a').map f = xs.map f := by
  rw [List.map_set, hf]
  refine List.ext_getElem? fun i => ?_
  by_cases hi : k = i
  · subst hi
    obtain ⟨hlt, ha⟩ := List.getElem?_eq_some_iff.mp hk
    simp [hlt, ha]
  · rw [List.getElem?_set_ne hi]

lemma getElem?_set_cases {α : Type} {xs : List α} {k j : ℕ} {a x : α}
    (h : (xs.set k a)[j]? = some x) : (j ≠ k ∧ xs[j]? = some x) ∨ (j = k ∧ x = a) := by
  by_cases hj : k = j
  · subst hj
    obtain ⟨_, rfl⟩ := List.getElem?_eq_some_iff.mp h
    exact Or.inr ⟨rfl, by simp⟩
  · rw [List.getElem?_set_ne hj] at h
    exact Or.inl ⟨Ne.symm hj, h⟩

lemma getElem?_snoc_cases {α : Type} {xs : List α} {j : ℕ} {a x : α}
    (h : (xs ++ [a])[j]? = some x) : xs[j]? = some x ∨ (j = xs.length ∧ x = a) := by
  obtain ⟨hlt, hx⟩ := List.getElem?_eq_some_iff.mp h
  by_cases hj : j < xs.length
  · exact Or.inl (by rwa [List.getElem?_append_left hj] at h)
  · have hj' : j = xs.length := by
      rw [List.length_append, List.length_singleton] at hlt
      omega
    subst hj'
    rw [List.getElem?_concat_length] at h
    exact Or.inr ⟨rfl, (Option.some.inj h).symm⟩

lemma getElem?_snoc_iff {α : Type} {xs : List α} {j : ℕ} {a x : α} :
    (xs ++ [a])[j]? = some x ↔ xs[j]? = some x ∨ (j = xs.length ∧ x = a) := by
  refine ⟨getElem?_snoc_cases, ?_⟩
  rintro (h | ⟨rfl, rfl⟩)
  · rwa [List.getElem?_append_left (List.getElem?_eq_some_iff.mp h).1]
  · exact List.getElem?_concat_length

lemma mem_set_self {α : Type} {xs : List α} {k : ℕ} {a a' : α} (hk : xs[k]? = some a) :
    a' ∈ xs.set k a' := by
  obtain ⟨hlt, _⟩ := List.getElem?_eq_some_iff.mp hk
  exact List.mem_of_getElem? (List.getElem?_set_self hlt)

lemma exists_mem_set_or {α : Type} {p : α → Prop} {xs : List α} {k : ℕ} {a a' : α}
    (hk : xs[k]? = some a) (h : ∃ x ∈ xs, p x) : p a ∨ ∃ x ∈ xs.set k a', p x := by
  obtain ⟨x, hx, hp⟩ := h
  obtain ⟨i, hi⟩ := List.mem_iff_getElem?.mp hx
  by_cases hki : k = i
  · subst hki
    rw [hk] at hi
    obtain rfl := Option.some.inj hi
    exact Or.inl hp
  · refine Or.inr ⟨x, ?_, hp⟩
    rw [← List.getElem?_set_ne hki] at hi
    exact List.mem_of_getElem? hi

lemma exists_mem_set {α : Type} {p : α → Prop} {xs : List α} {k : ℕ} {a a' : α}
    (hk : xs[k]? = some a) (h : ∃ x ∈ xs, p x) (ha : p a → p a') : ∃ x ∈ xs.set k a', p x :=
  (exists_mem_set_or hk h).elim (fun hp => ⟨a', mem_set_self hk, ha hp⟩) id

lemma eq_of_mem_set {α : Type} {xs : List α} {k : ℕ} {a a' x : α} (hlen : xs.length ≤ 1)
    (hk : xs[k]? = some a) (hx : x ∈ xs.set k a') : x = a' := by
  obtain ⟨hlt, _⟩ := List.getElem?_eq_some_iff.mp hk
  obtain ⟨i, hi⟩ := List.mem_iff_getElem?.mp hx
  obtain ⟨hlt', _⟩ := List.getElem?_eq_some_iff.mp hi
  rw [List.length_set] at hlt'
  rcases getElem?_set_cases hi with ⟨hne, _⟩ | ⟨_, rfl⟩
  · omega
  · rfl

def AtMostOne {α : Type} (p : α → Prop) (xs : List α) : Prop :=
  ∀ (i j : ℕ) (x y : α), xs[i]? = some x → xs[j]? = some y → p x → p y → i = j

lemma AtMostOne.set {α : Type} {p : α → Prop} {xs : List α} {k : ℕ} {a a' : α}
    (h : AtMostOne p xs) (hk : xs[k]? = some a) (ha : p a' → p a ∨ ∀ x ∈ xs, ¬ p x) :
    AtMostOne p (xs.set k a') := by
  have hother : ∀ (i : ℕ) (x : α), xs[i]? = some x → p x → p a' → i = k := by
    intro i x hi hx ha'
    rcases ha ha' with ha | hno
    · exact h i k x a hi hk hx ha
    · exact (hno x (List.mem_of_getElem? hi) hx).elim
  intro i j x y hi hj hx hy
  rcases getElem?_set_cases hi with ⟨_, hi'⟩ | ⟨rfl, rfl⟩
  · rcases getElem?_set_cases hj with ⟨_, hj'⟩ | ⟨rfl, rfl⟩
    · exact h i j x y hi' hj' hx hy
    · exact hother i x hi' hx hy
  · rcases getElem?_set_cases hj with ⟨_, hj'⟩ | ⟨rfl, rfl⟩
    · exact (hother j y hj' hy hx).symm
    · rfl

lemma AtMostOne.snoc {α : Type} {p : α → Prop} {xs : List α} {a : α} (h : AtMostOne p xs)
    (ha : ¬ p a) : AtMostOne p (xs ++ [a]) := by
  intro i j x y hi hj hx hy
  rcases getElem?_snoc_cases hi with hi | ⟨_, rfl⟩
  · rcases getElem?_snoc_cases hj with hj | ⟨_, rfl⟩
    · exact h i j x y hi hj hx hy
    · exact (ha hy).elim
  · exact (ha hx).elim

lemma AtMostOne.none_set {α : Type} {p q : α → Prop} {xs : List α} {k : ℕ} {a a' : α}
    (h : AtMostOne p xs) (hk : xs[k]? = some a) (ha : p a) (hq : ∀ x, q x → p x) (ha' : ¬ q a') :
    ∀ x ∈ xs.set k a', ¬ q x := by
  intro x hx hqx
  obtain ⟨i, hi⟩ := List.mem_iff_getElem?.mp hx
  rcases getElem?_set_cases hi with ⟨hne, hi⟩ | ⟨_, rfl⟩
  · exact hne (h i k x a hi hk (hq x hqx) ha)
  · exact ha' hqx

lemma of_mem_zipWith {α β γ : Type} {f : α → β → γ} {xs : List α} {ys : List β} {z : γ}
    (h : z ∈ List.zipWith f xs ys) : ∃ x ∈ xs, ∃ y ∈ ys, z = f x y := by
  rw [← List.map_uncurry_zip_eq_zipWith] at h
  obtain ⟨⟨x, y⟩, hpair, rfl⟩ := List.mem_map.mp h
  obtain ⟨hx, hy⟩ := List.of_mem_zip hpair
  exact ⟨x, hx, y, hy, rfl⟩

/-- Every key is answered with yes the first time it is asked for, and only then. -/
def FirstOnly {κ : Type} (asked : List (κ × Bool)) : Prop :=
  ∀ (before : List (κ × Bool)) (k : κ) (answer : Bool) (after : List (κ × Bool)),
    asked = before ++ (k, answer) :: after → (answer = true ↔ k ∉ before.map Prod.fst)

lemma firstOnly_nil {κ : Type} : FirstOnly ([] : List (κ × Bool)) := by
  intro before k answer after h
  simp at h

lemma FirstOnly.snoc {κ : Type} {asked : List (κ × Bool)} {k : κ} {answer : Bool}
    (h : FirstOnly asked) (hk : answer = true ↔ k ∉ asked.map Prod.fst) :
    FirstOnly (asked ++ [(k, answer)]) := by
  intro before k' answer' after hsplit
  rcases List.eq_nil_or_concat after with rfl | ⟨after', x, rfl⟩
  · obtain ⟨rfl, hlast⟩ := List.append_inj' hsplit rfl
    obtain ⟨rfl, rfl⟩ := Prod.mk.inj (List.head_eq_of_cons_eq hlast)
    exact hk
  · rw [List.concat_eq_append, ← List.cons_append, ← List.append_assoc] at hsplit
    exact h before k' answer' after' (List.append_inj' hsplit rfl).1

lemma find?_congr {α : Type} {p q : α → Bool} {xs : List α} (h : ∀ x ∈ xs, p x = q x) :
    xs.find? p = xs.find? q := by
  induction xs with
  | nil => rfl
  | cons x xs ih =>
    have htail := ih fun y hy => h y (List.mem_cons_of_mem x hy)
    simp only [List.find?_cons, h x (List.mem_cons_self ..), htail]

lemma forall_mem_eraseIdx {α : Type} {p : α → Prop} {xs : List α} (h : ∀ x ∈ xs, p x) (k : ℕ) :
    ∀ x ∈ xs.eraseIdx k, p x :=
  fun x hx => h x (List.mem_of_mem_eraseIdx hx)

lemma nodup_map_snoc {α β : Type} {f : α → β} {xs : List α} {a : α} (h : (xs.map f).Nodup)
    (hnew : ∀ x ∈ xs, f x ≠ f a) : ((xs ++ [a]).map f).Nodup := by
  rw [List.map_append]
  apply List.Nodup.append h (List.nodup_singleton _)
  intro y hy hy'
  obtain ⟨x, hx, rfl⟩ := List.mem_map.mp hy
  exact hnew x hx (List.mem_singleton.mp hy')

/-- In an ordered list, what every smaller element has too comes first. -/
lemma take_filter_of_pairwise {α : Type} {le : α → α → Prop} {p : α → Bool} {xs : List α}
    (h : xs.Pairwise le)
    (hp : ∀ a ∈ xs, ∀ b ∈ xs, le a b → p b = true → p a = true) :
    xs.take (xs.filter p).length = xs.filter p := by
  induction xs with
  | nil => rfl
  | cons x xs ih =>
    obtain ⟨hx, hxs⟩ := List.pairwise_cons.mp h
    cases hpx : p x with
    | true =>
      rw [List.filter_cons_of_pos hpx, List.length_cons, List.take_succ_cons, ih hxs
        fun a ha b hb => hp a (List.mem_cons_of_mem _ ha) b (List.mem_cons_of_mem _ hb)]
    | false =>
      have hnone : xs.filter p = [] := by
        rw [List.filter_eq_nil_iff]
        intro b hb hpb
        rw [hp x List.mem_cons_self b (List.mem_cons_of_mem _ hb) (hx b hb) hpb] at hpx
        cases hpx
      rw [List.filter_cons_of_neg (by rw [hpx]; decide), hnone]
      rfl

end WalkieTalkie.Lib
