import Mathlib.Data.List.Basic

/-! Reading a stream item by item until the reader fails. A reader that gives back each encoded item
and leaves what follows it reads a sequence of encodings back, whole or cut off anywhere. -/

namespace WalkieTalkie.Lib.Frames

structure Reader (α β ε : Type) where
  read : List β → Except ε α × List β
  shorter : ∀ {stream a rest}, read stream = (.ok a, rest) → rest.length < stream.length

variable {α β ε : Type} (R : Reader α β ε)

def Reader.all (stream : List β) : List α × ε :=
  match h : R.read stream with
  | (.error e, _) => ([], e)
  | (.ok a, rest) =>
    have := R.shorter h
    let (items, e) := Reader.all rest
    (a :: items, e)
termination_by stream.length

variable {R} {stream rest : List β} {encode : α → List β} {items : List α}

lemma Reader.all_error {e : ε} (h : R.read stream = (.error e, rest)) : R.all stream = ([], e) := by
  rw [Reader.all]
  split
  · next e' _ h' =>
    obtain ⟨he, _⟩ := Prod.mk.inj (h'.symm.trans h)
    obtain rfl := Except.error.inj he
    rfl
  · next h' =>
    cases (Prod.mk.inj (h'.symm.trans h)).1

lemma Reader.all_ok {a : α} (h : R.read stream = (.ok a, rest)) :
    R.all stream = (a :: (R.all rest).1, (R.all rest).2) := by
  rw [Reader.all]
  split
  · next h' =>
    cases (Prod.mk.inj (h'.symm.trans h)).1
  · next a' rest' h' =>
    obtain ⟨ha, rfl⟩ := Prod.mk.inj (h'.symm.trans h)
    obtain rfl := Except.ok.inj ha
    rfl

lemma Reader.all_flatMap (hread : ∀ a ∈ items, ∀ rest, R.read (encode a ++ rest) = (.ok a, rest)) :
    R.all (items.flatMap encode ++ rest) = (items ++ (R.all rest).1, (R.all rest).2) := by
  induction items with
  | nil => rfl
  | cons a items ih =>
    have hfirst := hread a List.mem_cons_self (items.flatMap encode ++ rest)
    rw [List.flatMap_cons, List.append_assoc, Reader.all_ok hfirst,
      ih fun b hb => hread b (List.mem_cons_of_mem a hb)]
    rfl

/-- A cut falls at the end of an item or inside the next one. -/
lemma cut_flatMap {cut : List β} (hcut : cut <+: items.flatMap encode) :
    ∃ front back part, items = front ++ back ∧ cut = front.flatMap encode ++ part ∧
      (part = [] ∨ ∃ a later, back = a :: later ∧ part <+: encode a ∧ part ≠ encode a) := by
  induction items generalizing cut with
  | nil => exact ⟨[], [], [], rfl, List.prefix_nil.mp hcut, Or.inl rfl⟩
  | cons a items ih =>
    rw [List.flatMap_cons] at hcut
    by_cases hlong : (encode a).length ≤ cut.length
    · obtain ⟨tail, rfl⟩ := List.prefix_of_prefix_length_le (List.prefix_append _ _) hcut hlong
      obtain ⟨front, back, part, rfl, rfl, hpart⟩ := ih ((List.prefix_append_right_inj _).mp hcut)
      exact ⟨a :: front, back, part, rfl, by rw [List.flatMap_cons, List.append_assoc], hpart⟩
    · have hshort := Nat.lt_of_not_le hlong
      refine ⟨[], a :: items, cut, rfl, rfl, Or.inr ⟨a, items, rfl, ?_, ?_⟩⟩
      · exact List.prefix_of_prefix_length_le hcut (List.prefix_append _ _) (Nat.le_of_lt hshort)
      · rintro rfl
        exact hlong (Nat.le_refl _)

end WalkieTalkie.Lib.Frames
