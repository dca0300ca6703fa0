import Mathlib.Algebra.Group.Nat.Defs
import WalkieTalkie.Sessions.Harness

/-! The durations of the command line. The number and its unit are split one byte before the end of
the trimmed text, which aborts when the last character has more than one byte. -/

namespace WalkieTalkie.Cli

open Sessions (trim)

inductive Outcome
  | abort
  | err (message : String)
  | ok (secs : ℕ)
deriving DecidableEq

def len : List Char → ℕ
  | [] => 0
  | c :: cs => c.utf8Size + len cs

/-- `str::split_at`, which panics at an offset that is not between two characters. -/
def splitAt : List Char → ℕ → Option (List Char × List Char)
  | cs, 0 => some ([], cs)
  | [], _ + 1 => none
  | c :: cs, mid =>
    if c.utf8Size ≤ mid then (splitAt cs (mid - c.utf8Size)).map fun p => (c :: p.1, p.2) else none

def toDigit (c : Char) : Option ℕ := if c.isDigit then some (c.toNat - 48) else none

/-- One digit more, unless it is none or the number no longer fits. -/
def accumulate (n : ℕ) (c : Char) : Option ℕ :=
  (toDigit c).bind fun d => if n * 10 + d < 2 ^ 64 then some (n * 10 + d) else none

def afterSign : List Char → List Char
  | '+' :: rest => rest
  | text => text

def parseU64 (text : List Char) : Option ℕ :=
  if afterSign text = [] then none else (afterSign text).foldlM accumulate 0

def checkedMul (n m : ℕ) : Option ℕ := if n * m < 2 ^ 64 then some (n * m) else none

def scaled (n : ℕ) : List Char → Option (Option ℕ)
  | ['s'] => some (some n)
  | ['m'] => some (checkedMul n 60)
  | ['h'] => some (checkedMul n 3600)
  | ['d'] => some (checkedMul n 86400)
  | _ => none

def seconds (num unit : List Char) : Outcome :=
  match parseU64 num with
  | none => .err "bad duration number"
  | some n =>
    match scaled n unit with
    | none => .err ("unknown duration unit: " ++ String.ofList unit)
    | some none => .err "duration is too large"
    | some (some secs) => .ok secs

def parseDuration (s : String) : Outcome :=
  let s := trim s.toList
  if s = [] then .err "empty duration"
  else
    match splitAt s (len s - 1) with
    | none => .abort
    | some (num, unit) => seconds num unit

def value (digits : List Char) : ℕ := digits.foldl (fun n c => n * 10 + (c.toNat - 48)) 0

/-- The literals that Rust reads as a `u64`. -/
structure Literal (text : List Char) (n : ℕ) : Prop where
  digits : ∃ sign digits, (sign = [] ∨ sign = ['+']) ∧ digits ≠ [] ∧ text = sign ++ digits ∧
    (∀ c ∈ digits, c.isDigit = true) ∧ value digits = n
  fits : n < 2 ^ 64

def multiplier : Char → Option ℕ
  | 's' => some 1
  | 'm' => some 60
  | 'h' => some 3600
  | 'd' => some 86400
  | _ => none

def Duration (text : List Char) (secs : ℕ) : Prop :=
  ∃ literal unit n m, text = literal ++ [unit] ∧ Literal literal n ∧ multiplier unit = some m ∧
    secs = n * m ∧ secs < 2 ^ 64

def Exact (s : String) : Prop :=
  parseDuration s ≠ .abort ∧ ∀ secs, parseDuration s = .ok secs ↔ Duration (trim s.toList) secs

lemma len_append (cs cs' : List Char) : len (cs ++ cs') = len cs + len cs' := by
  induction cs with
  | nil => simp [len]
  | cons c cs ih =>
    simp only [List.cons_append, len, ih]
    omega

lemma splitAt_cons (c : Char) (cs : List Char) (k : ℕ) : splitAt (c :: cs) (k + 1) =
    if c.utf8Size ≤ k + 1 then (splitAt cs (k + 1 - c.utf8Size)).map fun p => (c :: p.1, p.2)
    else none := rfl

lemma splitAt_boundary (front back : List Char) : splitAt (front ++ back) (len front) = some (front, back) := by
  induction front with
  | nil => cases back <;> rfl
  | cons c front ih =>
    obtain ⟨k, hk⟩ : ∃ k, len (c :: front) = k + 1 :=
      ⟨c.utf8Size + len front - 1, by have hpos := c.utf8Size_pos; simp only [len]; omega⟩
    have hle : c.utf8Size ≤ k + 1 := by
      rw [← hk]
      exact Nat.le_add_right ..
    have hrest : k + 1 - c.utf8Size = len front := by
      rw [← hk]
      exact Nat.add_sub_cancel_left ..
    rw [hk, List.cons_append, splitAt_cons, if_pos hle, hrest, ih]
    rfl

lemma splitAt_inside (front : List Char) {c : Char} {k : ℕ} (hk : k + 1 < c.utf8Size) :
    splitAt (front ++ [c]) (len front + (k + 1)) = none := by
  induction front with
  | nil =>
    rw [List.nil_append, len, Nat.zero_add, splitAt_cons, if_neg (by omega)]
  | cons d front ih =>
    have hpos := d.utf8Size_pos
    have hmid : len (d :: front) + (k + 1) = (d.utf8Size + len front + k) + 1 := by
      simp only [len]
      omega
    have hrest : d.utf8Size + len front + k + 1 - d.utf8Size = len front + (k + 1) := by omega
    rw [hmid, List.cons_append, splitAt_cons, if_pos (by omega), hrest, ih]
    rfl

lemma accumulate_some {n v : ℕ} {c : Char} : accumulate n c = some v ↔
    c.isDigit = true ∧ v = n * 10 + (c.toNat - 48) ∧ v < 2 ^ 64 := by
  rw [accumulate, toDigit, Option.bind_eq_some_iff]
  simp only [Option.ite_none_right_eq_some, Option.some.injEq]
  constructor
  · rintro ⟨d, ⟨hdigit, rfl⟩, hlt, rfl⟩
    exact ⟨hdigit, rfl, hlt⟩
  · rintro ⟨hdigit, rfl, hlt⟩
    exact ⟨_, ⟨hdigit, rfl⟩, hlt, rfl⟩

def valueFrom (n : ℕ) (digits : List Char) : ℕ := digits.foldl (fun n c => n * 10 + (c.toNat - 48)) n

lemma le_valueFrom (n : ℕ) (digits : List Char) : n ≤ valueFrom n digits := by
  induction digits generalizing n with
  | nil => exact Nat.le_refl n
  | cons c digits ih =>
    have hstep : n ≤ n * 10 + (c.toNat - 48) := by omega
    exact Nat.le_trans hstep (ih _)

lemma foldlM_accumulate {n v : ℕ} {digits : List Char} (hn : n < 2 ^ 64) :
    digits.foldlM accumulate n = some v ↔
      (∀ c ∈ digits, c.isDigit = true) ∧ valueFrom n digits = v ∧ v < 2 ^ 64 := by
  induction digits generalizing n with
  | nil =>
    constructor
    · intro h
      obtain rfl := Option.some.inj h
      exact ⟨fun _ hc => (by cases hc), rfl, hn⟩
    · rintro ⟨_, rfl, _⟩
      rfl
  | cons c digits ih =>
    rw [List.foldlM_cons]
    constructor
    · intro h
      obtain ⟨n', hn', hrest⟩ := Option.bind_eq_some_iff.mp h
      obtain ⟨hdigit, rfl, hlt⟩ := accumulate_some.mp hn'
      obtain ⟨hall, hvalue, hfits⟩ := (ih hlt).mp hrest
      exact ⟨List.forall_mem_cons.mpr ⟨hdigit, hall⟩, hvalue, hfits⟩
    · rintro ⟨hall, hvalue, hfits⟩
      obtain ⟨hdigit, hall⟩ := List.forall_mem_cons.mp hall
      have hlt : n * 10 + (c.toNat - 48) < 2 ^ 64 :=
        Nat.lt_of_le_of_lt (le_valueFrom _ digits) (hvalue ▸ hfits)
      exact Option.bind_eq_some_iff.mpr
        ⟨_, accumulate_some.mpr ⟨hdigit, rfl, hlt⟩, (ih hlt).mpr ⟨hall, hvalue, hfits⟩⟩

lemma afterSign_cases (text : List Char) : text = afterSign text ∨ text = '+' :: afterSign text := by
  rw [afterSign.eq_def]
  split
  · exact Or.inr rfl
  · exact Or.inl rfl

lemma afterSign_digit {c : Char} (rest : List Char) (h : c.isDigit = true) :
    afterSign (c :: rest) = c :: rest := by
  rw [afterSign.eq_def]
  split
  · next heq =>
    rw [(List.cons.inj heq).1] at h
    exact absurd h (by decide)
  · rfl

lemma parseU64_iff {text : List Char} {n : ℕ} : parseU64 text = some n ↔ Literal text n := by
  have hread : ∀ {digits : List Char}, digits.foldlM accumulate 0 = some n ↔
      (∀ c ∈ digits, c.isDigit = true) ∧ value digits = n ∧ n < 2 ^ 64 :=
    foldlM_accumulate (by decide)
  rw [parseU64]
  constructor
  · intro h
    split at h
    · cases h
    · next hne =>
      obtain ⟨hall, hvalue, hfits⟩ := hread.mp h
      rcases afterSign_cases text with heq | heq
      · exact ⟨⟨[], _, Or.inl rfl, hne, heq, hall, hvalue⟩, hfits⟩
      · exact ⟨⟨['+'], _, Or.inr rfl, hne, heq, hall, hvalue⟩, hfits⟩
  · rintro ⟨⟨sign, digits, hsign, hne, rfl, hall, hvalue⟩, hfits⟩
    have hafter : afterSign (sign ++ digits) = digits := by
      rcases hsign with rfl | rfl
      · obtain ⟨c, rest, rfl⟩ := List.exists_cons_of_ne_nil hne
        exact afterSign_digit rest (hall c (List.mem_cons_self ..))
      · rfl
    rw [hafter, if_neg hne]
    exact hread.mpr ⟨hall, hvalue, hfits⟩

lemma checkedMul_iff {n m v : ℕ} : checkedMul n m = some v ↔ v = n * m ∧ v < 2 ^ 64 := by
  rw [checkedMul, Option.ite_none_right_eq_some, Option.some.injEq]
  constructor
  · rintro ⟨hlt, rfl⟩
    exact ⟨rfl, hlt⟩
  · rintro ⟨rfl, hlt⟩
    exact ⟨hlt, rfl⟩

lemma scaled_iff {n secs : ℕ} {c : Char} (hn : n < 2 ^ 64) : scaled n [c] = some (some secs) ↔
    ∃ m, multiplier c = some m ∧ secs = n * m ∧ secs < 2 ^ 64 := by
  have hunit : ∀ {m : ℕ} {product : Option ℕ}, multiplier c = some m →
      (product = some secs ↔ secs = n * m ∧ secs < 2 ^ 64) →
      (some product = some (some secs) ↔ ∃ m, multiplier c = some m ∧ secs = n * m ∧ secs < 2 ^ 64) := by
    intro m product hm hproduct
    rw [Option.some.injEq, hproduct, hm]
    constructor
    · exact fun h => ⟨m, rfl, h⟩
    · rintro ⟨m', hm', h⟩
      obtain rfl := Option.some.inj hm'
      exact h
  rw [scaled.eq_def]
  split
  · next heq =>
    obtain rfl := (List.cons.inj heq).1
    refine hunit (m := 1) rfl ⟨fun h => ?_, fun h => ?_⟩
    · obtain rfl := Option.some.inj h
      exact ⟨(Nat.mul_one n).symm, hn⟩
    · rw [h.1, Nat.mul_one]
  · next heq =>
    obtain rfl := (List.cons.inj heq).1
    exact hunit rfl checkedMul_iff
  · next heq =>
    obtain rfl := (List.cons.inj heq).1
    exact hunit rfl checkedMul_iff
  · next heq =>
    obtain rfl := (List.cons.inj heq).1
    exact hunit rfl checkedMul_iff
  · next hs hm hh hd =>
    have hnone : multiplier c = none := by
      rw [multiplier.eq_def]
      split
      · exact (hs rfl).elim
      · exact (hm rfl).elim
      · exact (hh rfl).elim
      · exact (hd rfl).elim
      · rfl
    rw [hnone]
    constructor
    · intro h
      cases h
    · rintro ⟨_, h, _⟩
      cases h

lemma seconds_ne_abort (num unit : List Char) : seconds num unit ≠ .abort := by
  rw [seconds]
  split
  · exact Outcome.noConfusion
  · split <;> exact Outcome.noConfusion

lemma seconds_ok_iff {num unit : List Char} {secs : ℕ} : seconds num unit = .ok secs ↔
    ∃ n, parseU64 num = some n ∧ scaled n unit = some (some secs) := by
  rw [seconds]
  cases parseU64 num with
  | none => simp
  | some n =>
    rcases hscaled : scaled n unit with _ | _ | product
    · simp [hscaled]
    · simp [hscaled]
    · simp [hscaled]

lemma exact_of_ascii {s : String} {front : List Char} {c : Char} (hs : trim s.toList = front ++ [c])
    (hc : c.utf8Size = 1) : Exact s := by
  have hne : trim s.toList ≠ [] := by simp [hs]
  have hlen : len (front ++ [c]) - 1 = len front := by
    rw [len_append, len, len, hc]
    omega
  have hcode : parseDuration s = seconds front [c] := by
    rw [parseDuration, if_neg hne, hs, hlen, splitAt_boundary]
  rw [Exact, hcode]
  refine ⟨seconds_ne_abort front [c], fun secs => seconds_ok_iff.trans ?_⟩
  rw [hs]
  constructor
  · rintro ⟨n, hn, hscaled⟩
    have hliteral := parseU64_iff.mp hn
    obtain ⟨m, hm, hsecs⟩ := (scaled_iff hliteral.fits).mp hscaled
    exact ⟨front, c, n, m, rfl, hliteral, hm, hsecs⟩
  · rintro ⟨literal, unit, n, m, heq, hliteral, hm, hsecs⟩
    obtain ⟨rfl, hunit⟩ := List.append_inj' heq rfl
    obtain rfl := (List.cons.inj hunit).1
    exact ⟨n, parseU64_iff.mpr hliteral, (scaled_iff hliteral.fits).mpr ⟨m, hm, hsecs⟩⟩

lemma abort_of_wide {s : String} {front : List Char} {c : Char} (hs : trim s.toList = front ++ [c])
    (hc : c.utf8Size ≠ 1) : parseDuration s = .abort := by
  have hne : trim s.toList ≠ [] := by simp [hs]
  have hpos := c.utf8Size_pos
  obtain ⟨k, hk⟩ : ∃ k, c.utf8Size = k + 2 := ⟨c.utf8Size - 2, by omega⟩
  have hmid : len (front ++ [c]) - 1 = len front + (k + 1) := by
    rw [len_append, len, len, hk]
    omega
  rw [parseDuration, if_neg hne, hs, hmid, splitAt_inside front (by omega)]

lemma exact_of_empty {s : String} (hs : trim s.toList = []) : Exact s := by
  have hcode : parseDuration s = .err "empty duration" := by rw [parseDuration, if_pos hs]
  rw [Exact, hcode]
  refine ⟨Outcome.noConfusion, fun secs => ⟨fun h => (by cases h), ?_⟩⟩
  rintro ⟨literal, unit, _, _, heq, _⟩
  rw [hs] at heq
  exact absurd heq.symm (by simp)

theorem parseDuration_exact_iff (s : String) :
    Exact s ↔ ∀ c, (trim s.toList).getLast? = some c → c.toNat < 128 := by
  rcases List.eq_nil_or_concat (trim s.toList) with hs | ⟨front, c, hs⟩
  · rw [hs]
    exact ⟨fun _ _ h => (by cases h), fun _ => exact_of_empty hs⟩
  · rw [List.concat_eq_append] at hs
    have hsize : c.utf8Size = 1 ↔ c.toNat < 128 := by
      rw [Char.utf8Size_eq_one_iff, UInt32.le_iff_toNat_le]
      exact Nat.lt_succ_iff.symm
    rw [hs, List.getLast?_concat]
    constructor
    · intro h c' hc'
      obtain rfl := Option.some.inj hc'
      by_contra hwide
      exact h.1 (abort_of_wide hs (mt hsize.mp hwide))
    · intro h
      exact exact_of_ascii hs (hsize.mpr (h c rfl))

example : parseDuration "4d" = .ok 345600 := by decide

theorem wide_unit_aborts : parseDuration "5µ" = .abort ∧ ¬ Exact "5µ" := by
  have habort : parseDuration "5µ" = .abort := by decide
  exact ⟨habort, fun h => h.1 habort⟩

end WalkieTalkie.Cli
