import Mathlib.Data.List.TakeWhile

/-! Replacing the matches of a pattern from left to right, in strings that are written as tokens. A
delimiter that stands in no token but its own can only be met between tokens, so a replacement between
such delimiters is a replacement of tokens. -/

namespace WalkieTalkie.Lib.Rewriting

variable {α β τ : Type}

/-- The matches of a pattern, with what stands between them. A pattern says how many places after the
head of the string its match takes. -/
def scan (m : List α → Option (β × ℕ)) : ℕ → List α → List (α ⊕ β)
  | _, [] => []
  | n + 1, _ :: s => scan m n s
  | 0, c :: s =>
    match m (c :: s) with
    | some (b, n) => .inr b :: scan m n s
    | none => .inl c :: scan m 0 s

/-- The matches replaced; a replacement may depend on how many were before it. -/
def fill (f : ℕ → β → List α) : ℕ → List (α ⊕ β) → List α
  | _, [] => []
  | k, .inl c :: ps => c :: fill f k ps
  | k, .inr b :: ps => f k b ++ fill f (k + 1) ps

def found (ps : List (α ⊕ β)) : List β := ps.filterMap Sum.getRight?

def replaceAll (m : List α → Option (β × ℕ)) (f : β → List α) (s : List α) : List α :=
  fill (fun _ => f) 0 (scan m 0 s)

/-- A longest run of `inner`, not empty, between two delimiters. -/
def delimited [DecidableEq α] (opening : List α) (inner : α → Bool) (closing s : List α) :
    Option (List α × ℕ) :=
  let rest := s.drop opening.length
  let run := rest.takeWhile inner
  if opening <+: s ∧ run ≠ [] ∧ closing <+: rest.dropWhile inner then
    some (run, opening.length + run.length + closing.length - 1)
  else none

variable {m : List α → Option (β × ℕ)} {f : ℕ → β → List α} {render : τ → List α}

lemma scan_skip (n : ℕ) (s : List α) : scan m n s = scan m 0 (s.drop n) := by
  induction n generalizing s with
  | zero => rfl
  | succ n ih =>
    cases s with
    | nil => rfl
    | cons c s => exact ih s

lemma scan_pass {u : List α} (h : ∀ c ∈ u, ∀ s, m (c :: s) = none) (s : List α) :
    scan m 0 (u ++ s) = u.map Sum.inl ++ scan m 0 s := by
  induction u with
  | nil => rfl
  | cons c u ih =>
    rw [List.cons_append, scan, h c (List.mem_cons_self ..)]
    exact congrArg _ (ih fun d hd => h d (List.mem_cons_of_mem _ hd))

lemma fill_inl (k : ℕ) (u : List α) (ps : List (α ⊕ β)) :
    fill f k (u.map Sum.inl ++ ps) = u ++ fill f k ps := by
  induction u with
  | nil => rfl
  | cons c u ih => exact congrArg (c :: ·) ih

lemma of_mem_scan {p : α → Prop} {q : β → Prop}
    (hm : ∀ s b n, (∀ c ∈ s, p c) → m s = some (b, n) → q b) {s : List α} (hs : ∀ c ∈ s, p c) (n : ℕ) :
    ∀ x ∈ scan m n s, Sum.elim p q x := by
  induction s generalizing n with
  | nil => cases n <;> exact fun _ hx => (by cases hx)
  | cons c s ih =>
    have hs' : ∀ d ∈ s, p d := fun d hd => hs d (List.mem_cons_of_mem _ hd)
    cases n with
    | succ n => exact ih hs' n
    | zero =>
      rw [scan]
      split
      · next b k hb => exact List.forall_mem_cons.mpr ⟨hm _ b k hs hb, ih hs' k⟩
      · exact List.forall_mem_cons.mpr ⟨hs c (List.mem_cons_self ..), ih hs' 0⟩

lemma of_mem_fill {p : α → Prop} {q : β → Prop} (hf : ∀ k b, q b → ∀ c ∈ f k b, p c)
    {ps : List (α ⊕ β)} (hps : ∀ x ∈ ps, Sum.elim p q x) (k : ℕ) : ∀ c ∈ fill f k ps, p c := by
  induction ps generalizing k with
  | nil => exact fun _ hc => (by cases hc)
  | cons x ps ih =>
    obtain ⟨hx, hps'⟩ := List.forall_mem_cons.mp hps
    cases x with
    | inl c => exact List.forall_mem_cons.mpr ⟨hx, ih hps' k⟩
    | inr b => exact List.forall_mem_append.mpr ⟨hf k b hx, ih hps' (k + 1)⟩

lemma of_mem_found {p : α → Prop} {q : β → Prop} {ps : List (α ⊕ β)}
    (hps : ∀ x ∈ ps, Sum.elim p q x) : ∀ b ∈ found ps, q b := by
  intro b hb
  obtain ⟨x, hx, hget⟩ := List.mem_filterMap.mp hb
  cases x with
  | inl c => cases hget
  | inr b' =>
    obtain rfl := Option.some.inj hget
    exact hps _ hx

lemma delimited_some [DecidableEq α] {opening closing s run : List α} {inner : α → Bool} {n : ℕ}
    (h : delimited opening inner closing s = some (run, n)) :
    run ≠ [] ∧ (∀ c ∈ run, inner c = true) ∧
      s = opening ++ (run ++ (closing ++ s.drop (n + 1))) := by
  simp only [delimited] at h
  split at h
  · next hcond =>
    obtain ⟨⟨rest, hs⟩, hrun, ⟨rest', hrest⟩⟩ := hcond
    obtain ⟨rfl, rfl⟩ := Prod.mk.inj (Option.some.inj h)
    subst hs
    rw [List.drop_left] at hrun hrest ⊢
    have hpos : 0 < (rest.takeWhile inner).length := List.length_pos_iff.mpr hrun
    have hsplit : rest = rest.takeWhile inner ++ (closing ++ rest') := by
      rw [hrest, List.takeWhile_append_dropWhile]
    refine ⟨hrun, fun c hc => List.mem_takeWhile_imp hc, ?_⟩
    have hdrop : (opening ++ rest).drop
        (opening.length + (rest.takeWhile inner).length + closing.length - 1 + 1) = rest' := by
      have hall : opening ++ rest = opening ++ rest.takeWhile inner ++ closing ++ rest' := by
        rw [List.append_assoc, List.append_assoc, ← hsplit]
      rw [Nat.sub_add_cancel (by omega), ← List.length_append, ← List.length_append]
      exact (congrArg (List.drop _) hall).trans List.drop_left
    rw [hdrop, ← hsplit]
  · cases h

lemma delimited_mem [DecidableEq α] {opening closing s run : List α} {inner : α → Bool} {n : ℕ}
    (h : delimited opening inner closing s = some (run, n)) : ∀ c ∈ run, c ∈ s := by
  intro c hc
  rw [(delimited_some h).2.2]
  exact List.mem_append_right _ (List.mem_append_left _ hc)

/-- A character stands in no token but its own. -/
def Alone (render : τ → List α) (c : α) : Prop := ∀ t, c ∈ render t → render t = [c]

lemma split_of_alone {c : α} (hc : Alone render c) {ts : List τ} {p q : List α}
    (h : ts.flatMap render = p ++ c :: q) : ∃ us t vs, ts = us ++ t :: vs ∧ render t = [c] ∧
      us.flatMap render = p ∧ vs.flatMap render = q := by
  induction ts generalizing p with
  | nil => simp at h
  | cons t ts ih =>
    rw [List.flatMap_cons] at h
    have hlater : ∀ p', p = render t ++ p' → ts.flatMap render = p' ++ c :: q →
        ∃ us t' vs, t :: ts = us ++ t' :: vs ∧ render t' = [c] ∧
          us.flatMap render = p ∧ vs.flatMap render = q := by
      intro p' hp hts
      obtain ⟨us, t', vs, rfl, ht', rfl, hvs⟩ := ih hts
      exact ⟨t :: us, t', vs, rfl, ht', hp ▸ List.flatMap_cons .., hvs⟩
    rcases List.append_eq_append_iff.mp h with ⟨p', hp, hts⟩ | ⟨q', ht, hts⟩
    · exact hlater p' hp hts
    · cases q' with
      | nil => exact hlater [] (by rw [List.append_nil] at ht ⊢; exact ht.symm) hts.symm
      | cons d q' =>
        obtain ⟨rfl, hq⟩ := List.cons.inj hts
        have hone : render t = [c] := hc t (by rw [ht]; simp)
        rw [hone] at ht
        obtain ⟨rfl, rfl⟩ : p = [] ∧ q' = [] := by
          cases p with
          | nil => exact ⟨rfl, (List.cons.inj ht).2.symm⟩
          | cons d p => simp at ht
        exact ⟨[], t, ts, rfl, hone, rfl, hq.symm⟩

lemma split_delimiter (hne : ∀ t, render t ≠ []) {d : List α} (hd : ∀ c ∈ d, Alone render c)
    (hd' : d ≠ []) {ts : List τ} {p q : List α} (h : ts.flatMap render = p ++ (d ++ q)) :
    ∃ us ds vs, ts = us ++ (ds ++ vs) ∧ us.flatMap render = p ∧ ds.flatMap render = d ∧
      vs.flatMap render = q := by
  induction d generalizing ts p with
  | nil => exact absurd rfl hd'
  | cons c d ih =>
    obtain ⟨us, t, vs, rfl, ht, hus, hvs⟩ := split_of_alone (hd c (List.mem_cons_self ..)) h
    cases d with
    | nil => exact ⟨us, [t], vs, rfl, hus, by rw [List.flatMap_singleton, ht], hvs⟩
    | cons c' d =>
      obtain ⟨us', ds, vs', rfl, hus', hds, hvs'⟩ :=
        ih (fun x hx => hd x (List.mem_cons_of_mem _ hx)) (by simp) (p := []) hvs
      obtain rfl : us' = [] := by
        cases us' with
        | nil => rfl
        | cons t' us' =>
          rw [List.flatMap_cons, List.append_eq_nil_iff] at hus'
          exact absurd hus'.1 (hne t')
      exact ⟨us, t :: ds, vs', rfl, hus, by rw [List.flatMap_cons, ht, hds]; rfl, hvs'⟩

/-- Some stretches of tokens give way to others. -/
inductive Replaced (rw : List τ → List τ → Prop) : List τ → List τ → Prop
  | nil : Replaced rw [] []
  | keep (t : τ) {ts us : List τ} (h : Replaced rw ts us) : Replaced rw (t :: ts) (t :: us)
  | rewrite {a b ts us : List τ} (hrw : rw a b) (h : Replaced rw ts us) :
      Replaced rw (a ++ ts) (b ++ us)

/-- Where the matches of a pattern begin and end at tokens, filling them in replaces tokens. -/
theorem exists_replaced {rw : List τ → List τ → Prop}
    (hstart : ∀ c s x, m (c :: s) = some x → Alone render c)
    (hmatch : ∀ ts b n k, m (ts.flatMap render) = some (b, n) → ∃ a out rest, ts = a ++ rest ∧
      a ≠ [] ∧ rest.flatMap render = (ts.flatMap render).drop (n + 1) ∧ rw a out ∧
      out.flatMap render = f k b)
    (ts : List τ) (k : ℕ) : ∃ us, Replaced rw ts us ∧
      us.flatMap render = fill f k (scan m 0 (ts.flatMap render)) := by
  induction hlen : ts.length using Nat.strong_induction_on generalizing ts k with
  | _ len ih =>
    cases ts with
    | nil => exact ⟨[], .nil, rfl⟩
    | cons t ts =>
      have hkeep : ∀ ps, scan m 0 (List.flatMap render (t :: ts)) =
          (render t).map Sum.inl ++ ps → ps = scan m 0 (ts.flatMap render) →
          ∃ us, Replaced rw (t :: ts) us ∧
            us.flatMap render = fill f k (scan m 0 (List.flatMap render (t :: ts))) := by
        intro ps hscan hps
        obtain ⟨us, hus, hwrite⟩ := ih ts.length (by rw [← hlen]; simp) ts k rfl
        refine ⟨t :: us, .keep t hus, ?_⟩
        rw [hscan, hps, fill_inl, List.flatMap_cons, hwrite]
      by_cases hone : ∃ c, render t = [c]
      · obtain ⟨c, hc⟩ := hone
        have hcons : List.flatMap render (t :: ts) = c :: ts.flatMap render := by
          rw [List.flatMap_cons, hc]
          rfl
        cases hm : m (c :: ts.flatMap render) with
        | none =>
          refine hkeep _ ?_ rfl
          rw [hcons, scan, hm, hc]
          rfl
        | some x =>
          obtain ⟨b, n⟩ := x
          obtain ⟨a, out, rest, hts, ha, hrest, hrw, hout⟩ := hmatch (t :: ts) b n k (hcons ▸ hm)
          have hshort : rest.length < len := by
            rw [← hlen, hts, List.length_append]
            have := List.length_pos_iff.mpr ha
            omega
          obtain ⟨us, hus, hwrite⟩ := ih rest.length hshort rest (k + 1) rfl
          refine ⟨out ++ us, hts ▸ .rewrite hrw hus, ?_⟩
          rw [hcons] at hrest
          rw [hcons, scan, hm, List.flatMap_append, hwrite, hrest, hout]
          change _ = f k b ++ fill f (k + 1) (scan m n (ts.flatMap render))
          rw [scan_skip n]
          rfl
      · refine hkeep _ ?_ rfl
        rw [List.flatMap_cons]
        refine scan_pass (fun c hc s => ?_) _
        cases hm : m (c :: s) with
        | none => rfl
        | some x => exact absurd ⟨c, hstart c s x hm t hc⟩ hone

/-- A replacement between delimiters that stand in no token. -/
theorem exists_replaced_delimited [DecidableEq α] {rw : List τ → List τ → Prop}
    {opening closing : List α} {inner : α → Bool} {g : List α → List α} (hne : ∀ t, render t ≠ [])
    (hopen : opening ≠ []) (hclose : closing ≠ []) (hopen' : ∀ c ∈ opening, Alone render c)
    (hclose' : ∀ c ∈ closing, Alone render c)
    (hout : ∀ ds run es, ds.flatMap render = opening → es.flatMap render = closing →
      (∀ c ∈ run.flatMap render, inner c = true) →
      ∃ out, rw (ds ++ (run ++ es)) out ∧ out.flatMap render = g (run.flatMap render))
    (ts : List τ) : ∃ us, Replaced rw ts us ∧
      us.flatMap render = replaceAll (delimited opening inner closing) g (ts.flatMap render) := by
  refine exists_replaced (fun c s x hx => ?_) (fun ts b n k hm => ?_) ts 0
  · obtain ⟨run, n⟩ := x
    obtain ⟨_, _, hs⟩ := delimited_some hx
    cases opening with
    | nil => exact absurd rfl hopen
    | cons d opening =>
      obtain ⟨rfl, _⟩ := List.cons.inj hs
      exact hopen' c (List.mem_cons_self ..)
  · obtain ⟨hrun, hinner, hs⟩ := delimited_some hm
    have hs' : ts.flatMap render =
        [] ++ (opening ++ (b ++ (closing ++ (ts.flatMap render).drop (n + 1)))) := hs
    obtain ⟨us, ds, vs, rfl, hus, hds, hvs⟩ := split_delimiter hne hopen' hopen hs'
    obtain ⟨run, es, rest, rfl, rfl, hes, hrest⟩ := split_delimiter hne hclose' hclose hvs
    obtain ⟨out, hrw, hwrite⟩ := hout ds run es hds hes hinner
    obtain rfl : us = [] := by
      cases us with
      | nil => rfl
      | cons t us =>
        rw [List.flatMap_cons, List.append_eq_nil_iff] at hus
        exact absurd hus.1 (hne t)
    refine ⟨ds ++ (run ++ es), out, rest, by simp, ?_, hrest, hrw, hwrite⟩
    rintro hnil
    obtain ⟨rfl, _⟩ := List.append_eq_nil_iff.mp hnil
    exact hopen hds.symm

end WalkieTalkie.Lib.Rewriting
