import Mathlib.Data.List.Sort
import WalkieTalkie.Lib.Lists

/-! Relational tables with a primary key. A table carries the proof that its keys are distinct;
rows stand in the order in which they were inserted. The operations are those of SQL: `UPDATE` and
`DELETE` with a condition, `INSERT`, `INSERT OR IGNORE`, and `INSERT … ON CONFLICT(key) DO UPDATE`. -/

namespace WalkieTalkie.Lib

structure Table (ρ κ : Type) (key : ρ → κ) where
  rows : List ρ
  nodup : (rows.map key).Nodup

namespace Table

variable {ρ κ : Type} {key : ρ → κ}

def empty : Table ρ κ key := ⟨[], List.nodup_nil⟩

@[simp] lemma rows_empty : (empty : Table ρ κ key).rows = [] := rfl

lemma eq_of_key (t : Table ρ κ key) {r r' : ρ} (hr : r ∈ t.rows) (hr' : r' ∈ t.rows)
    (hk : key r = key r') : r = r' :=
  List.inj_on_of_nodup_map t.nodup hr hr' hk

lemma map_key {f : ρ → ρ} (hf : ∀ r, key (f r) = key r) (l : List ρ) :
    (l.map f).map key = l.map key := by
  simp [List.map_map, Function.comp_def, hf]

def update (t : Table ρ κ key) (p : ρ → Bool) (f : ρ → ρ) (hf : ∀ r, key (f r) = key r) :
    Table ρ κ key where
  rows := t.rows.map fun r => if p r then f r else r
  nodup := by
    rw [map_key (by intro r; split <;> simp [hf])]
    exact t.nodup

def delete (t : Table ρ κ key) (p : ρ → Bool) : Table ρ κ key where
  rows := t.rows.filter fun r => !p r
  nodup := t.nodup.sublist (List.filter_sublist.map key)

lemma mem_update {t : Table ρ κ key} {p : ρ → Bool} {f : ρ → ρ} {hf : ∀ r, key (f r) = key r}
    {r : ρ} : r ∈ (t.update p f hf).rows ↔ ∃ o ∈ t.rows, r = if p o then f o else o := by
  simp only [update, List.mem_map]
  exact ⟨fun ⟨o, ho, h⟩ => ⟨o, ho, h.symm⟩, fun ⟨o, ho, h⟩ => ⟨o, ho, h.symm⟩⟩

lemma mem_delete {t : Table ρ κ key} {p : ρ → Bool} {r : ρ} :
    r ∈ (t.delete p).rows ↔ r ∈ t.rows ∧ p r = false := by
  simp [delete]

lemma filter_update {t : Table ρ κ key} {p q : ρ → Bool} {f : ρ → ρ}
    {hf : ∀ r, key (f r) = key r} (h : ∀ r, p r = true → q (f r) = false) :
    (t.update p f hf).rows.filter q = t.rows.filter fun r => !p r && q r := by
  dsimp only [update]
  induction t.rows with
  | nil => rfl
  | cons r rows ih =>
    rw [List.map_cons, List.filter_cons, List.filter_cons, ih]
    cases hp : p r with
    | true => simp [h r hp]
    | false => simp

lemma filter_update_other {t : Table ρ κ key} {p q : ρ → Bool} {f : ρ → ρ}
    {hf : ∀ r, key (f r) = key r} (h : ∀ r, p r = true → q r = false)
    (h' : ∀ r, p r = true → q (f r) = false) : (t.update p f hf).rows.filter q = t.rows.filter q := by
  rw [filter_update h']
  refine List.filter_congr fun r _ => ?_
  cases hp : p r with
  | true => simp [h r hp]
  | false => rfl

lemma ext_rows {t t' : Table ρ κ key} (h : t.rows = t'.rows) : t = t' := by
  obtain ⟨rows, _⟩ := t
  obtain ⟨rows', _⟩ := t'
  obtain rfl : rows = rows' := h
  rfl

/-- The rows that meet a condition, as a table of their own. -/
def select (t : Table ρ κ key) (p : ρ → Bool) : Table ρ κ key where
  rows := t.rows.filter p
  nodup := t.nodup.sublist (List.filter_sublist.map key)

/-- The rows seen through some of their columns, among them the key. -/
def project {ρ' : Type} {key' : ρ' → κ} (t : Table ρ κ key) (f : ρ → ρ')
    (hf : ∀ r, key' (f r) = key r) : Table ρ' κ key' where
  rows := t.rows.map f
  nodup := by
    rw [List.map_map, Function.comp_def]
    simp only [hf]
    exact t.nodup

section

variable {ρ' : Type} {key' : ρ' → κ} {t : Table ρ κ key} {f : ρ → ρ'} (hf : ∀ r, key' (f r) = key r)

lemma project_update {p : ρ → Bool} {p' : ρ' → Bool} {g : ρ → ρ} {g' : ρ' → ρ'}
    (hg : ∀ r, key (g r) = key r) (hg' : ∀ r, key' (g' r) = key' r) (hp : ∀ r, p' (f r) = p r)
    (h : ∀ r, f (g r) = g' (f r)) :
    (t.update p g hg).project f hf = (t.project f hf).update p' g' hg' := by
  refine ext_rows ?_
  simp only [project, update, List.map_map]
  refine List.map_congr_left fun r _ => ?_
  simp only [Function.comp_apply, hp, apply_ite f, h]

lemma project_update_same {p : ρ → Bool} {g : ρ → ρ} (hg : ∀ r, key (g r) = key r)
    (h : ∀ r, f (g r) = f r) : (t.update p g hg).project f hf = t.project f hf := by
  refine ext_rows ?_
  simp only [project, update, List.map_map]
  refine List.map_congr_left fun r _ => ?_
  simp only [Function.comp_apply, apply_ite f, h, ite_self]

end

section

variable {t : Table ρ κ key} {p q : ρ → Bool} {f : ρ → ρ}

lemma select_update (hf : ∀ r, key (f r) = key r) (h : ∀ r, p (f r) = p r) :
    (t.update q f hf).select p = (t.select p).update q f hf := by
  refine ext_rows ?_
  simp only [select, update, List.filter_map]
  congr 1
  refine List.filter_congr fun r _ => ?_
  simp only [Function.comp_apply]
  split
  · exact h r
  · rfl

lemma select_update_other (hf : ∀ r, key (f r) = key r) (h : ∀ r, p (f r) = p r)
    (hq : ∀ r, q r = true → p r = false) :
    (t.update q f hf).select p = t.select p := by
  rw [select_update hf h]
  refine ext_rows ?_
  simp only [select, update]
  refine (List.map_congr_left fun r hr => ?_).trans (List.map_id _)
  rw [if_neg]
  · rfl
  · intro hqr
    have hp := (List.mem_filter.mp hr).2
    rw [hq r hqr] at hp
    cases hp

lemma select_delete : (t.delete q).select p = (t.select p).delete q := by
  refine ext_rows ?_
  simp only [select, delete, List.filter_filter, Bool.and_comm]

lemma select_delete_other (hq : ∀ r, q r = true → p r = false) :
    (t.delete q).select p = t.select p := by
  refine ext_rows ?_
  simp only [select, delete, List.filter_filter]
  refine List.filter_congr fun r _ => ?_
  cases hqr : q r with
  | true => simp [hq r hqr]
  | false => simp

end

variable [DecidableEq κ]

def find (t : Table ρ κ key) (k : κ) : Option ρ :=
  t.rows.find? fun r => key r = k

def has (t : Table ρ κ key) (k : κ) : Bool :=
  t.rows.any fun r => key r = k

lemma find_eq_some {t : Table ρ κ key} {k : κ} {r : ρ} :
    t.find k = some r ↔ r ∈ t.rows ∧ key r = k := by
  constructor
  · intro h
    exact ⟨List.mem_of_find?_eq_some h, by simpa using List.find?_some h⟩
  · rintro ⟨hr, hk⟩
    cases h : t.find k with
    | none =>
      have hn := List.find?_eq_none.mp h r hr
      simp [hk] at hn
    | some r' =>
      have hr' : r' ∈ t.rows := List.mem_of_find?_eq_some h
      have hk' : key r' = k := by simpa using List.find?_some h
      rw [t.eq_of_key hr hr' (hk.trans hk'.symm)]

lemma has_eq_true {t : Table ρ κ key} {k : κ} : t.has k = true ↔ ∃ r ∈ t.rows, key r = k := by
  simp [has]

lemma has_eq_false {t : Table ρ κ key} {k : κ} : t.has k = false ↔ ∀ r ∈ t.rows, key r ≠ k := by
  simp [has]

lemma nodup_snoc {t : Table ρ κ key} {r : ρ} (h : t.has (key r) = false) :
    ((t.rows ++ [r]).map key).Nodup :=
  nodup_map_snoc t.nodup (has_eq_false.mp h)

def insert (t : Table ρ κ key) (r : ρ) : Option (Table ρ κ key) :=
  if h : t.has (key r) = true then none
  else some ⟨t.rows ++ [r], nodup_snoc (by simpa using h)⟩

def insertOrIgnore (t : Table ρ κ key) (r : ρ) : Table ρ κ key × Bool :=
  if h : t.has (key r) = true then (t, false)
  else (⟨t.rows ++ [r], nodup_snoc (by simpa using h)⟩, true)

def upsert (t : Table ρ κ key) (merge : ρ → ρ → ρ) (hm : ∀ o r, key (merge o r) = key o) (r : ρ) :
    Table ρ κ key :=
  if h : t.has (key r) = true then t.update (fun o => key o = key r) (merge · r) (hm · r)
  else ⟨t.rows ++ [r], nodup_snoc (by simpa using h)⟩

lemma insert_rows {t t' : Table ρ κ key} {r : ρ} (h : t.insert r = some t') :
    t'.rows = t.rows ++ [r] := by
  rw [insert] at h
  split at h
  · cases h
  · obtain rfl := Option.some.inj h
    rfl

lemma insertOrIgnore_of_has {t : Table ρ κ key} {r : ρ} (h : t.has (key r) = true) :
    t.insertOrIgnore r = (t, false) := by
  simp [insertOrIgnore, h]

lemma insertOrIgnore_of_not_has {t : Table ρ κ key} {r : ρ} (h : t.has (key r) = false) :
    (t.insertOrIgnore r).1.rows = t.rows ++ [r] ∧ (t.insertOrIgnore r).2 = true := by
  simp [insertOrIgnore, h]

lemma mem_insertOrIgnore {t : Table ρ κ key} {r x : ρ} :
    x ∈ (t.insertOrIgnore r).1.rows ↔ x ∈ t.rows ∨ (x = r ∧ ∀ o ∈ t.rows, key o ≠ key r) := by
  cases h : t.has (key r) with
  | true =>
    obtain ⟨o, ho, hk⟩ := has_eq_true.mp h
    rw [insertOrIgnore_of_has h]
    exact ⟨Or.inl, fun hx => hx.resolve_right fun hr => hr.2 o ho hk⟩
  | false =>
    rw [(insertOrIgnore_of_not_has h).1, List.mem_append, List.mem_singleton]
    exact or_congr_right (and_iff_left (has_eq_false.mp h)).symm

lemma mem_upsert {t : Table ρ κ key} {merge : ρ → ρ → ρ} {hm : ∀ o r, key (merge o r) = key o}
    {r x : ρ} : x ∈ (t.upsert merge hm r).rows ↔
      (x ∈ t.rows ∧ key x ≠ key r) ∨ (∃ o ∈ t.rows, key o = key r ∧ x = merge o r) ∨
        (x = r ∧ ∀ o ∈ t.rows, key o ≠ key r) := by
  cases h : t.has (key r) with
  | true =>
    obtain ⟨c, hc, hk⟩ := has_eq_true.mp h
    simp only [upsert, h, dite_true, mem_update, decide_eq_true_eq]
    constructor
    · rintro ⟨o, ho, hx⟩
      by_cases ho' : key o = key r
      · exact Or.inr (Or.inl ⟨o, ho, ho', by simpa [ho'] using hx⟩)
      · obtain rfl : x = o := by simpa [ho'] using hx
        exact Or.inl ⟨ho, ho'⟩
    · rintro (⟨hx, hn⟩ | ⟨o, ho, ho', rfl⟩ | ⟨_, hn⟩)
      · exact ⟨x, hx, by simp [hn]⟩
      · exact ⟨o, ho, by simp [ho']⟩
      · exact (hn c hc hk).elim
  | false =>
    have hn := has_eq_false.mp h
    simp only [upsert, h, Bool.false_eq_true, dite_false, List.mem_append, List.mem_singleton]
    constructor
    · rintro (hx | rfl)
      · exact Or.inl ⟨hx, hn x hx⟩
      · exact Or.inr (Or.inr ⟨rfl, hn⟩)
    · rintro (⟨hx, _⟩ | ⟨o, ho, ho', _⟩ | ⟨rfl, _⟩)
      · exact Or.inl hx
      · exact (hn o ho ho').elim
      · exact Or.inr rfl

section

variable {ρ' : Type} {key' : ρ' → κ} {t : Table ρ κ key} {f : ρ → ρ'} (hf : ∀ r, key' (f r) = key r)

lemma project_find (k : κ) : (t.project f hf).find k = (t.find k).map f := by
  simp only [find, project, List.find?_map, Function.comp_def, hf]

lemma project_has (k : κ) : (t.project f hf).has k = t.has k := by
  simp only [has, project, List.any_map, Function.comp_def, hf]

lemma project_insertOrIgnore (r : ρ) : (t.project f hf).insertOrIgnore (f r) =
    ((t.insertOrIgnore r).1.project f hf, (t.insertOrIgnore r).2) := by
  have hsame : (t.project f hf).has (key' (f r)) = t.has (key r) := by rw [hf, project_has]
  cases hhas : t.has (key r) with
  | true =>
    rw [hhas] at hsame
    rw [insertOrIgnore_of_has hsame, insertOrIgnore_of_has hhas]
  | false =>
    rw [hhas] at hsame
    obtain ⟨hrows, hok⟩ := insertOrIgnore_of_not_has hsame
    obtain ⟨hrows', hok'⟩ := insertOrIgnore_of_not_has hhas
    refine Prod.ext (ext_rows ?_) (hok.trans hok'.symm)
    rw [hrows]
    simp [project, hrows']

end

section

variable {t : Table ρ κ key} {p : ρ → Bool} {k : κ} {r : ρ}

lemma select_find (h : ∀ r, key r = k → p r = true) : (t.select p).find k = t.find k := by
  refine Option.ext fun r => ?_
  rw [find_eq_some, find_eq_some, select, List.mem_filter]
  exact ⟨fun hr => ⟨hr.1.1, hr.2⟩, fun hr => ⟨⟨hr.1, h r hr.2⟩, hr.2⟩⟩

lemma select_has (h : ∀ r, key r = k → p r = true) : (t.select p).has k = t.has k := by
  rw [Bool.eq_iff_iff, has_eq_true, has_eq_true]
  constructor
  · rintro ⟨r, hr, hk⟩
    exact ⟨r, (List.mem_filter.mp hr).1, hk⟩
  · rintro ⟨r, hr, hk⟩
    exact ⟨r, List.mem_filter.mpr ⟨hr, h r hk⟩, hk⟩

lemma select_insertOrIgnore (hr : p r = true) (h : ∀ r', key r' = key r → p r' = true) :
    (t.select p).insertOrIgnore r =
      ((t.insertOrIgnore r).1.select p, (t.insertOrIgnore r).2) := by
  have hsame := @select_has _ _ _ _ t p (key r) h
  cases hhas : t.has (key r) with
  | true =>
    rw [hhas] at hsame
    rw [insertOrIgnore_of_has hsame, insertOrIgnore_of_has hhas]
  | false =>
    rw [hhas] at hsame
    obtain ⟨hrows, hok⟩ := insertOrIgnore_of_not_has hsame
    obtain ⟨hrows', hok'⟩ := insertOrIgnore_of_not_has hhas
    refine Prod.ext (ext_rows ?_) (hok.trans hok'.symm)
    rw [hrows]
    simp [select, hrows', hr]

lemma select_insertOrIgnore_other (hr : p r = false) :
    (t.insertOrIgnore r).1.select p = t.select p := by
  cases hhas : t.has (key r) with
  | true => rw [insertOrIgnore_of_has hhas]
  | false =>
    refine ext_rows ?_
    simp [select, (insertOrIgnore_of_not_has hhas).1, hr]

lemma select_insert (hr : p r = true) (h : ∀ r', key r' = key r → p r' = true) :
    (t.select p).insert r = (t.insert r).map fun t' => t'.select p := by
  have hsame := @select_has _ _ _ _ t p (key r) h
  cases hhas : t.has (key r) with
  | true =>
    rw [hhas] at hsame
    simp [insert, hhas, hsame]
  | false =>
    rw [hhas] at hsame
    rw [insert, dif_neg (by simp [hsame]), insert, dif_neg (by simp [hhas])]
    exact congrArg some (ext_rows (by simp [select, hr]))

end

end Table

/-- A result of `SELECT … ORDER BY`: the selected rows in an order that `le` allows. Rows that
`le` does not separate come in any order. -/
def OrderedBy {ρ : Type} (le : ρ → ρ → Prop) (selected result : List ρ) : Prop :=
  result.Perm selected ∧ result.Pairwise le

lemma OrderedBy.mem_iff {ρ : Type} {le : ρ → ρ → Prop} {selected result : List ρ}
    (h : OrderedBy le selected result) {r : ρ} : r ∈ result ↔ r ∈ selected :=
  h.1.mem_iff

lemma OrderedBy.find_first {ρ : Type} {le : ρ → ρ → Prop} {p : ρ → Bool}
    {selected result : List ρ} {r x : ρ} (h : OrderedBy le selected result)
    (hr : result.find? p = some r) (hx : x ∈ selected) (hpx : p x = true) : r = x ∨ le r x := by
  obtain ⟨hpr, before, after, rfl, hbefore⟩ := List.find?_eq_some_iff_append.mp hr
  rcases List.mem_append.mp (h.mem_iff.mpr hx) with hx | hx
  · have hno := hbefore x hx
    simp [hpx] at hno
  · rcases List.mem_cons.mp hx with rfl | hx
    · exact Or.inl rfl
    · exact Or.inr ((List.pairwise_cons.mp (List.pairwise_append.mp h.2).2.1).1 x hx)

def orderBy {ρ : Type} (le : ρ → ρ → Prop) [DecidableRel le] (selected : List ρ) : List ρ :=
  selected.insertionSort le

lemma orderBy_orderedBy {ρ : Type} (le : ρ → ρ → Prop) [DecidableRel le] [Std.Total le]
    [IsTrans ρ le] (selected : List ρ) : OrderedBy le selected (orderBy le selected) :=
  ⟨List.perm_insertionSort le selected, List.pairwise_insertionSort le selected⟩

end WalkieTalkie.Lib
