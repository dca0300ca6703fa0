import WalkieTalkie.Lib.Tables

/-! Tables whose rows are written in another form. When the form keeps distinct keys distinct, every
statement does to the written table what it does to the table itself. -/

namespace WalkieTalkie.Lib

structure Coding {ρ κ ρ' κ' : Type} (key : ρ → κ) (key' : ρ' → κ') where
  row : ρ → ρ'
  keys : ∀ r o, key' (row r) = key' (row o) ↔ key r = key o

lemma exists_perm_of_perm_map {α β : Type} {f : α → β} {xs : List α} {ys : List β}
    (h : ys.Perm (xs.map f)) : ∃ zs : List α, zs.Perm xs ∧ ys = zs.map f := by
  generalize hmap : xs.map f = images at h
  induction h generalizing xs with
  | nil =>
    obtain rfl := List.map_eq_nil_iff.mp hmap
    exact ⟨[], .nil, rfl⟩
  | cons y _ ih =>
    obtain ⟨x, rest, rfl, rfl, hrest⟩ := List.map_eq_cons_iff.mp hmap
    obtain ⟨zs, hperm, rfl⟩ := ih hrest
    exact ⟨x :: zs, hperm.cons x, rfl⟩
  | swap y y' ys =>
    obtain ⟨x, rest, rfl, rfl, hrest⟩ := List.map_eq_cons_iff.mp hmap
    obtain ⟨x', rest, rfl, rfl, rfl⟩ := List.map_eq_cons_iff.mp hrest
    exact ⟨x' :: x :: rest, .swap x x' rest, rfl⟩
  | trans _ _ ih ih' =>
    obtain ⟨zs, hperm, rfl⟩ := ih' hmap
    obtain ⟨zs', hperm', rfl⟩ := ih rfl
    exact ⟨zs', hperm'.trans hperm, rfl⟩

namespace Coding

variable {ρ κ ρ' κ' : Type} {key : ρ → κ} {key' : ρ' → κ'} (C : Coding key key')

def table (t : Table ρ κ key) : Table ρ' κ' key' where
  rows := t.rows.map C.row
  nodup := by
    have hkeys := List.pairwise_map.mp t.nodup
    refine List.pairwise_map.mpr (List.pairwise_map.mpr (hkeys.imp fun hne hsame => ?_))
    exact hne ((C.keys _ _).mp hsame)

lemma table_empty : C.table Table.empty = Table.empty := rfl

lemma mem_table {t : Table ρ κ key} {x : ρ'} : x ∈ (C.table t).rows ↔ ∃ r ∈ t.rows, C.row r = x :=
  List.mem_map

lemma filter_table {t : Table ρ κ key} {p : ρ → Bool} {p' : ρ' → Bool}
    (hp : ∀ r, p' (C.row r) = p r) :
    (C.table t).rows.filter p' = (t.rows.filter p).map C.row := by
  rw [table, List.filter_map]
  exact congrArg (List.map C.row) (List.filter_congr fun r _ => hp r)

lemma update_table {t : Table ρ κ key} {p : ρ → Bool} {p' : ρ' → Bool} {f : ρ → ρ} {f' : ρ' → ρ'}
    {hf : ∀ r, key (f r) = key r} {hf' : ∀ x, key' (f' x) = key' x}
    (hp : ∀ r, p' (C.row r) = p r) (hrow : ∀ r, f' (C.row r) = C.row (f r)) :
    (C.table t).update p' f' hf' = C.table (t.update p f hf) := by
  refine Table.ext_rows ?_
  simp only [Table.update, table, List.map_map]
  refine List.map_congr_left fun r _ => ?_
  simp only [Function.comp_apply, hp, hrow]
  split <;> rfl

lemma orderedBy_rows {le : ρ → ρ → Prop} {le' : ρ' → ρ' → Prop}
    (hle : ∀ r o, le' (C.row r) (C.row o) ↔ le r o) {selected : List ρ} {result : List ρ'} :
    OrderedBy le' (selected.map C.row) result ↔
      ∃ rows, OrderedBy le selected rows ∧ result = rows.map C.row := by
  constructor
  · rintro ⟨hperm, hsorted⟩
    obtain ⟨rows, hrows, rfl⟩ := exists_perm_of_perm_map hperm
    refine ⟨rows, ⟨hrows, ?_⟩, rfl⟩
    exact (List.pairwise_map.mp hsorted).imp fun h => (hle _ _).mp h
  · rintro ⟨rows, ⟨hperm, hsorted⟩, rfl⟩
    exact ⟨hperm.map C.row, List.pairwise_map.mpr (hsorted.imp fun h => (hle _ _).mpr h)⟩

variable [DecidableEq κ] [DecidableEq κ']

lemma has_table {t : Table ρ κ key} {r : ρ} : (C.table t).has (key' (C.row r)) = t.has (key r) := by
  rw [Bool.eq_iff_iff, Table.has_eq_true, Table.has_eq_true]
  constructor
  · rintro ⟨x, hx, hkey⟩
    obtain ⟨o, ho, rfl⟩ := C.mem_table.mp hx
    exact ⟨o, ho, (C.keys o r).mp hkey⟩
  · rintro ⟨o, ho, hkey⟩
    exact ⟨C.row o, C.mem_table.mpr ⟨o, ho, rfl⟩, (C.keys o r).mpr hkey⟩

lemma insert_table (t : Table ρ κ key) (r : ρ) :
    (C.table t).insert (C.row r) = (t.insert r).map C.table := by
  have hsame := C.has_table (t := t) (r := r)
  cases hhas : t.has (key r) with
  | true =>
    rw [hhas] at hsame
    simp [Table.insert, hhas, hsame]
  | false =>
    rw [hhas] at hsame
    rw [Table.insert, dif_neg (by simp [hsame]), Table.insert, dif_neg (by simp [hhas])]
    exact congrArg some (Table.ext_rows (by simp [table]))

lemma insertOrIgnore_table (t : Table ρ κ key) (r : ρ) : (C.table t).insertOrIgnore (C.row r) =
    (C.table (t.insertOrIgnore r).1, (t.insertOrIgnore r).2) := by
  have hsame := C.has_table (t := t) (r := r)
  cases hhas : t.has (key r) with
  | true =>
    rw [hhas] at hsame
    rw [Table.insertOrIgnore_of_has hsame, Table.insertOrIgnore_of_has hhas]
  | false =>
    rw [hhas] at hsame
    obtain ⟨hrows, hok⟩ := Table.insertOrIgnore_of_not_has hsame
    obtain ⟨hrows', hok'⟩ := Table.insertOrIgnore_of_not_has hhas
    refine Prod.ext (Table.ext_rows ?_) (hok.trans hok'.symm)
    rw [hrows]
    simp [table, hrows']

end Coding

end WalkieTalkie.Lib
