import Mathlib.Data.List.Basic

/-! Unix paths as strings: joining, and lexical resolution to a place, the list of the names of the
directories from the root down. A name that never leaves the place where it starts leads to a place
below it. Of two paths that are written one after the other, the last name of the first and the first
name of the second become one. -/

namespace WalkieTalkie.Lib.Paths

abbrev PathBuf := List Char

abbrev Name := List Char

abbrev Place := List Name

def isAbsolute (p : PathBuf) : Bool := p.head? = some '/'

def join (p q : PathBuf) : PathBuf :=
  if isAbsolute q then q
  else if p.getLast?.all (· = '/') then p ++ q
  else p ++ '/' :: q

def skipped (n : Name) : Bool := n = [] || n = ['.']

def enter (d : Place) (n : Name) : Place :=
  if skipped n then d else if n = ['.', '.'] then d.dropLast else d ++ [n]

def walk (d : Place) (ns : List Name) : Place := ns.foldl enter d

def segments (p : PathBuf) : List Name := p.splitOn '/'

def resolve (cwd : Place) (p : PathBuf) : Place :=
  walk (if isAbsolute p then [] else cwd) (segments p)

def components (p : PathBuf) : List Name := (segments p).filter fun n => !skipped n

def parent (cwd : Place) (p : PathBuf) : Option Place :=
  if components p = [] then none
  else some (walk (if isAbsolute p then [] else cwd) (components p).dropLast)

def descendFrom (acc : List Name) : List Name → Option (List Name)
  | [] => some acc
  | n :: ns =>
    if skipped n then descendFrom acc ns
    else if n = ['.', '.'] then if acc = [] then none else descendFrom acc.dropLast ns
    else descendFrom (acc ++ [n]) ns

/-- The names of the directories that a relative path goes down, unless it climbs above the place
where it starts on its way. -/
def descend (p : PathBuf) : Option (List Name) :=
  if isAbsolute p then none else descendFrom [] (segments p)

lemma walk_append (d : Place) (ms ns : List Name) : walk d (ms ++ ns) = walk (walk d ms) ns :=
  List.foldl_append

lemma segments_nil : segments [] = [[]] := List.splitOn_nil _

lemma segments_append_cons (p q : PathBuf) :
    segments (p ++ '/' :: q) = segments p ++ segments q :=
  List.splitOn_append_cons_self p q

lemma walk_segments_nil (d : Place) : walk d (segments []) = d := by
  simp [segments_nil, walk, enter, skipped]

lemma isAbsolute_append {p : PathBuf} (q : PathBuf) (hp : p ≠ []) :
    isAbsolute (p ++ q) = isAbsolute p := by
  obtain ⟨c, cs, rfl⟩ := List.exists_cons_of_ne_nil hp
  rfl

lemma resolve_join (cwd : Place) (p : PathBuf) {q : PathBuf} (hq : isAbsolute q = false) :
    resolve cwd (join p q) = walk (resolve cwd p) (segments q) := by
  rw [join, hq]
  by_cases hp : p = []
  · subst hp
    have hnil : isAbsolute [] = false := rfl
    simp [resolve, hq, hnil, walk_segments_nil]
  · simp only [Bool.false_eq_true, if_false]
    split
    · next hlast =>
      obtain ⟨p', rfl⟩ : ∃ p', p = p' ++ ['/'] := by
        have hslash : p.getLast hp = '/' := by
          simpa [List.getLast?_eq_getLast_of_ne_nil hp] using hlast
        exact ⟨p.dropLast, by rw [← hslash, List.dropLast_append_getLast hp]⟩
      have habs := isAbsolute_append q hp
      simp only [resolve, habs]
      rw [List.append_assoc, List.singleton_append, segments_append_cons, segments_append_cons,
        walk_append, walk_append, walk_segments_nil]
    · simp only [resolve, isAbsolute_append _ hp]
      rw [segments_append_cons, walk_append]

def down (acc : List Name) (n : Name) : Option (List Name) :=
  if skipped n then some acc
  else if n = ['.', '.'] then if acc = [] then none else some acc.dropLast
  else some (acc ++ [n])

lemma descendFrom_cons (acc : List Name) (n : Name) (ns : List Name) :
    descendFrom acc (n :: ns) = (down acc n).bind (descendFrom · ns) := by
  rw [descendFrom, down]
  split_ifs <;> rfl

lemma enter_append_of_down {acc d : List Name} {n : Name} (D : Place) (h : down acc n = some d) :
    enter (D ++ acc) n = D ++ d := by
  rw [down] at h
  rw [enter]
  split_ifs at h ⊢ with hskip hup hacc
  · rw [← Option.some.inj h]
  · rw [← Option.some.inj h, List.dropLast_append_of_ne_nil hacc]
  · rw [← Option.some.inj h, List.append_assoc]

lemma down_append {acc d : List Name} {n : Name} (base : List Name) (h : down acc n = some d) :
    down (base ++ acc) n = some (base ++ d) := by
  rw [down] at h ⊢
  split_ifs at h with hskip hup hacc
  · rw [if_pos hskip, ← Option.some.inj h]
  · rw [if_neg hskip, if_pos hup, if_neg (by simp [hacc]), ← Option.some.inj h,
      List.dropLast_append_of_ne_nil hacc]
  · rw [if_neg hskip, if_neg hup, ← Option.some.inj h, List.append_assoc]

lemma walk_descendFrom {ns acc d : List Name} (D : Place) (h : descendFrom acc ns = some d) :
    walk (D ++ acc) ns = D ++ d := by
  induction ns generalizing acc with
  | nil =>
    obtain rfl := Option.some.inj h
    rfl
  | cons n ns ih =>
    rw [descendFrom_cons] at h
    obtain ⟨e, he, hns⟩ := Option.bind_eq_some_iff.mp h
    rw [walk, List.foldl_cons, enter_append_of_down D he]
    exact ih hns

lemma resolve_join_of_descend (cwd : Place) (p : PathBuf) {q : PathBuf} {d : List Name}
    (h : descend q = some d) : resolve cwd (join p q) = resolve cwd p ++ d := by
  rw [descend] at h
  split at h
  · cases h
  · next hq =>
    rw [resolve_join cwd p (by simpa using hq)]
    have hw := walk_descendFrom (resolve cwd p) h
    rwa [List.append_nil] at hw

lemma descendFrom_append {ms ns acc d : List Name} (h : descendFrom acc ms = some d) :
    descendFrom acc (ms ++ ns) = descendFrom d ns := by
  induction ms generalizing acc with
  | nil =>
    obtain rfl := Option.some.inj h
    rfl
  | cons n ms ih =>
    rw [descendFrom_cons] at h
    obtain ⟨e, he, hms⟩ := Option.bind_eq_some_iff.mp h
    rw [List.cons_append, descendFrom_cons, he, Option.bind_some]
    exact ih hms

lemma descendFrom_base {ns acc d : List Name} (base : List Name)
    (h : descendFrom acc ns = some d) : descendFrom (base ++ acc) ns = some (base ++ d) := by
  induction ns generalizing acc with
  | nil =>
    obtain rfl := Option.some.inj h
    rfl
  | cons n ns ih =>
    rw [descendFrom_cons] at h ⊢
    obtain ⟨e, he, hns⟩ := Option.bind_eq_some_iff.mp h
    rw [down_append base he, Option.bind_some]
    exact ih hns

lemma descend_single {n : Name} (hslash : '/' ∉ n) (hskip : skipped n = false)
    (hup : n ≠ ['.', '.']) : descend n = some [n] := by
  have habs : isAbsolute n = false := by
    cases n with
    | nil => rfl
    | cons c cs =>
      have hc : c ≠ '/' := fun hc => hslash (hc ▸ List.mem_cons_self)
      simp [isAbsolute, hc]
  have hseg : segments n = [n] := List.splitOn_eq_singleton hslash
  simp [descend, habs, hseg, descendFrom, hskip, hup]

def proper (n : Name) : Bool := !skipped n && n ≠ ['.', '.']

lemma proper_of_mem {n : Name} {c : Char} (h : c ∈ n) (hc : c ≠ '.') : proper n = true := by
  have hnil : n ≠ [] := List.ne_nil_of_mem h
  have hdot : n ≠ ['.'] := by
    rintro rfl
    exact hc (List.mem_singleton.mp h)
  have hup : n ≠ ['.', '.'] := by
    rintro rfl
    simp [hc] at h
  simp [proper, skipped, hnil, hdot, hup]

lemma down_proper {n : Name} (h : proper n = true) (acc : List Name) :
    down acc n = some (acc ++ [n]) := by
  simp only [proper, Bool.and_eq_true, Bool.not_eq_true', decide_eq_true_eq] at h
  rw [down, h.1, if_neg Bool.false_ne_true, if_neg h.2]

lemma down_length {acc d : List Name} {n : Name} (h : down acc n = some d) :
    d.length ≤ acc.length + 1 := by
  rw [down] at h
  split_ifs at h
  · rw [← Option.some.inj h]
    omega
  · rw [← Option.some.inj h, List.length_dropLast]
    omega
  · rw [← Option.some.inj h]
    simp

lemma down_deeper {acc acc' d : List Name} {n : Name} (hlen : acc.length ≤ acc'.length)
    (h : down acc n = some d) : ∃ d', down acc' n = some d' ∧ d.length ≤ d'.length := by
  rw [down] at h ⊢
  split_ifs at h ⊢ with hskip hup hacc' hacc
  · exact ⟨acc', rfl, Option.some.inj h ▸ hlen⟩
  · subst hacc'
    exact (hacc (List.eq_nil_of_length_eq_zero (Nat.le_zero.mp hlen))).elim
  · refine ⟨acc'.dropLast, rfl, ?_⟩
    rw [← Option.some.inj h, List.length_dropLast, List.length_dropLast]
    omega
  · refine ⟨acc' ++ [n], rfl, ?_⟩
    rw [← Option.some.inj h, List.length_append, List.length_append]
    omega

lemma descendFrom_deeper {ns acc acc' d : List Name} (hlen : acc.length ≤ acc'.length)
    (h : descendFrom acc ns = some d) : ∃ d', descendFrom acc' ns = some d' := by
  induction ns generalizing acc acc' with
  | nil => exact ⟨acc', rfl⟩
  | cons n ns ih =>
    rw [descendFrom_cons] at h ⊢
    obtain ⟨e, he, hns⟩ := Option.bind_eq_some_iff.mp h
    obtain ⟨e', he', hle⟩ := down_deeper hlen he
    rw [he', Option.bind_some]
    exact ih hle hns

lemma descendFrom_tail {n : Name} {ns acc d : List Name} (h : descendFrom [] (n :: ns) = some d)
    (hacc : acc ≠ []) : ∃ d', descendFrom acc ns = some d' := by
  rw [descendFrom_cons] at h
  obtain ⟨e, he, hns⟩ := Option.bind_eq_some_iff.mp h
  have hlen := down_length he
  have hpos := List.length_pos_iff.mpr hacc
  rw [List.length_nil] at hlen
  exact descendFrom_deeper (by omega) hns

lemma descendFrom_prefix {ms ns acc d : List Name} (h : descendFrom acc (ms ++ ns) = some d) :
    ∃ e, descendFrom acc ms = some e := by
  induction ms generalizing acc with
  | nil => exact ⟨acc, rfl⟩
  | cons n ms ih =>
    rw [List.cons_append, descendFrom_cons] at h
    obtain ⟨e, he, hms⟩ := Option.bind_eq_some_iff.mp h
    rw [descendFrom_cons, he, Option.bind_some]
    exact ih hms

def glue : List Name → List Name → List Name
  | [], ys => ys
  | [a], [] => [a]
  | [a], b :: ys => (a ++ b) :: ys
  | a :: x :: xs, ys => a :: glue (x :: xs) ys

lemma glue_concat (xs : List Name) (a b : Name) (ys : List Name) :
    glue (xs ++ [a]) (b :: ys) = xs ++ (a ++ b) :: ys := by
  induction xs with
  | nil => rfl
  | cons x xs ih =>
    cases xs with
    | nil => rfl
    | cons y xs => exact congrArg (x :: ·) ih

lemma segments_append (p q : PathBuf) : segments (p ++ q) = glue (segments p) (segments q) := by
  obtain ⟨b, ys, hq⟩ := List.exists_cons_of_ne_nil (List.splitOn_ne_nil '/' q)
  induction p with
  | nil =>
    rw [List.nil_append, segments_nil, segments, hq]
    rfl
  | cons c p ih =>
    obtain ⟨x, xs, hp⟩ := List.exists_cons_of_ne_nil (List.splitOn_ne_nil '/' p)
    simp only [segments, hp, hq] at ih
    simp only [segments, List.cons_append, List.splitOn_cons_eq_if_modifyHead, ih, hp, hq]
    split
    · rfl
    · cases xs <;> rfl

/-- A proper name at the seam does not climb, so what follows has at least one name above it. -/
lemma descendFrom_glue {ns ys acc d : List Name} {b : Name} (h : descendFrom acc ns = some d)
    (hns : ns ≠ []) (hb : ∀ a, proper (a ++ b) = true)
    (hys : ∀ acc', acc' ≠ [] → ∃ d', descendFrom acc' ys = some d') :
    ∃ d', descendFrom acc (glue ns (b :: ys)) = some d' := by
  obtain ⟨xs, a, rfl⟩ := (List.eq_nil_or_concat ns).resolve_left hns
  rw [List.concat_eq_append] at h ⊢
  obtain ⟨e, he⟩ := descendFrom_prefix h
  rw [glue_concat, descendFrom_append he, descendFrom_cons, down_proper (hb a), Option.bind_some]
  exact hys _ (by simp)

lemma descend_of_relative {p : PathBuf} (h : isAbsolute p = false) :
    descend p = descendFrom [] (segments p) := by
  rw [descend, h, if_neg Bool.false_ne_true]

lemma descend_some {p : PathBuf} {d : List Name} (h : descend p = some d) :
    descendFrom [] (segments p) = some d := by
  rw [descend] at h
  split at h
  · cases h
  · exact h

end WalkieTalkie.Lib.Paths
