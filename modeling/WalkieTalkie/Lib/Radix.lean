import Mathlib.Algebra.Group.Nat.Defs
import Mathlib.Algebra.Order.Ring.Nat
import Mathlib.Data.List.Basic

/-! Numbers of a fixed count of digits, most significant first, and texts that write a sequence of
bytes as such a number in another power of two: the bits are filled up with zeros to a whole number of
symbols, and a text is read back only if it has the right length and its last bits are zeros. Then no
two texts are read as the same bytes. -/

namespace WalkieTalkie.Lib.Radix

def digits (b : ℕ) : ℕ → ℕ → List ℕ
  | 0, _ => []
  | k + 1, n => n / b ^ k % b :: digits b k n

def number (b : ℕ) : List ℕ → ℕ
  | [] => 0
  | d :: ds => d * b ^ ds.length + number b ds

variable {b k m n v w : ℕ} {ds es : List ℕ}

@[simp] lemma length_digits : (digits b k n).length = k := by
  induction k with
  | zero => rfl
  | succ k ih => simp [digits, ih]

lemma digits_lt (hb : 0 < b) : ∀ d ∈ digits b k n, d < b := by
  induction k with
  | zero => simp [digits]
  | succ k ih =>
    intro d hd
    simp only [digits, List.mem_cons] at hd
    rcases hd with rfl | hd
    · apply Nat.mod_lt _ hb
    · exact ih d hd

lemma number_digits : number b (digits b k n) = n % b ^ k := by
  induction k with
  | zero => simp [digits, number, Nat.mod_one]
  | succ k ih => simp [digits, number, ih, Nat.mod_pow_succ, Nat.add_comm, Nat.mul_comm]

lemma number_lt (h : ∀ d ∈ ds, d < b) : number b ds < b ^ ds.length := by
  induction ds with
  | nil => simp [number]
  | cons d ds ih =>
    have hrest := ih fun x hx => h x (List.mem_cons_of_mem d hx)
    have hhead : (d + 1) * b ^ ds.length ≤ b * b ^ ds.length :=
      Nat.mul_le_mul_right _ (h d List.mem_cons_self)
    rw [Nat.succ_mul] at hhead
    rw [number, List.length_cons, Nat.pow_succ, Nat.mul_comm (b ^ ds.length)]
    omega

/-- Only what is below the leading place counts. -/
lemma digits_add_mul : digits b k (m * b ^ k + n) = digits b k n := by
  induction k generalizing m with
  | zero => rfl
  | succ k ih =>
    have hsplit : m * b ^ (k + 1) + n = m * b * b ^ k + n := by rw [Nat.pow_succ']; simp [Nat.mul_assoc]
    rw [digits, digits, hsplit, ih]
    congr 1
    rcases Nat.eq_zero_or_pos b with rfl | hb
    · simp
    · have hpos : 0 < b ^ k := Nat.pow_pos hb
      rw [Nat.add_comm, Nat.add_mul_div_right _ _ hpos, Nat.add_mul_mod_self_right]

lemma digits_number (h : ∀ d ∈ ds, d < b) : digits b ds.length (number b ds) = ds := by
  induction ds with
  | nil => rfl
  | cons d ds ih =>
    have hd : d < b := h d List.mem_cons_self
    have hrest : ∀ x ∈ ds, x < b := fun x hx => h x (List.mem_cons_of_mem d hx)
    have hpos : 0 < b ^ ds.length := Nat.pow_pos (by omega)
    rw [List.length_cons, digits, number, digits_add_mul, ih hrest, Nat.add_comm,
      Nat.add_mul_div_right _ _ hpos, Nat.div_eq_of_lt (number_lt hrest), Nat.zero_add,
      Nat.mod_eq_of_lt hd]

/-- How many symbols of `w` bits hold `n` digits of `v` bits. -/
def count (v w n : ℕ) : ℕ := (v * n + (w - 1)) / w

def padding (v w n : ℕ) : ℕ := w * count v w n - v * n

def regroup (v w : ℕ) (ds : List ℕ) : List ℕ :=
  digits (2 ^ w) (count v w ds.length) (number (2 ^ v) ds * 2 ^ padding v w ds.length)

def ungroup (v w : ℕ) (es : List ℕ) : Option (List ℕ) :=
  let n := w * es.length / v
  if es.length = count v w n ∧ number (2 ^ w) es % 2 ^ padding v w n = 0 then
    some (digits (2 ^ v) n (number (2 ^ w) es / 2 ^ padding v w n))
  else none

lemma le_count (hw : 0 < w) : v * n ≤ w * count v w n := by
  have hdiv := Nat.div_add_mod (v * n + (w - 1)) w
  have hlt := Nat.mod_lt (v * n + (w - 1)) hw
  rw [count]
  omega

lemma count_lt (hw : 0 < w) : w * count v w n < v * n + w := by
  have hle := Nat.mul_div_le (v * n + (w - 1)) w
  rw [count]
  omega

lemma bits_count (hw : 0 < w) : v * n + padding v w n = w * count v w n := by
  have hle := le_count (v := v) (n := n) hw
  rw [padding]
  omega

lemma div_count (hw : 0 < w) (hwv : w ≤ v) : w * count v w n / v = n := by
  have hle := le_count (v := v) (n := n) hw
  have hlt := count_lt (v := v) (n := n) hw
  apply Nat.div_eq_of_lt_le
  · rwa [Nat.mul_comm]
  · rw [Nat.succ_mul, Nat.mul_comm n]
    omega

lemma shifted_lt (hw : 0 < w) (h : m < (2 ^ v) ^ n) :
    m * 2 ^ padding v w n < (2 ^ w) ^ count v w n := by
  rw [← Nat.pow_mul, ← bits_count hw, Nat.pow_add, Nat.pow_mul]
  exact Nat.mul_lt_mul_of_pos_right h (Nat.two_pow_pos _)

theorem ungroup_regroup (hw : 0 < w) (hwv : w ≤ v) (h : ∀ d ∈ ds, d < 2 ^ v) :
    ungroup v w (regroup v w ds) = some ds := by
  have hpos : 0 < 2 ^ padding v w ds.length := Nat.two_pow_pos _
  have hnumber : number (2 ^ w) (regroup v w ds) = number (2 ^ v) ds * 2 ^ padding v w ds.length := by
    rw [regroup, number_digits, Nat.mod_eq_of_lt (shifted_lt hw (number_lt h))]
  have hlength : (regroup v w ds).length = count v w ds.length := by simp [regroup]
  simp only [ungroup, hlength, div_count hw hwv, hnumber, Nat.mul_mod_left, and_self, if_true,
    Nat.mul_div_cancel _ hpos, digits_number h]

theorem regroup_ungroup (hw : 0 < w) (h : ∀ e ∈ es, e < 2 ^ w) (hread : ungroup v w es = some ds) :
    regroup v w ds = es ∧ ∀ d ∈ ds, d < 2 ^ v := by
  rw [ungroup] at hread
  split at hread
  · next hok =>
    obtain ⟨hlength, hzeros⟩ := hok
    generalize w * es.length / v = n at hread hlength hzeros
    obtain rfl := Option.some.inj hread
    have hnumber : number (2 ^ w) es / 2 ^ padding v w n * 2 ^ padding v w n = number (2 ^ w) es :=
      Nat.div_mul_cancel (Nat.dvd_of_mod_eq_zero hzeros)
    have hfits : number (2 ^ w) es / 2 ^ padding v w n < (2 ^ v) ^ n := by
      rw [Nat.div_lt_iff_lt_mul (Nat.two_pow_pos _), ← Nat.pow_mul, ← Nat.pow_add, bits_count hw,
        ← hlength, Nat.pow_mul]
      exact number_lt h
    refine ⟨?_, digits_lt (Nat.two_pow_pos v)⟩
    rw [regroup, length_digits, number_digits, Nat.mod_eq_of_lt hfits, hnumber, ← hlength, digits_number h]
  · cases hread

/-- Symbols for the digits of `w` bits. -/
structure Alphabet (w : ℕ) where
  symbol : ℕ → Char
  value : Char → Option ℕ
  value_symbol : ∀ d < 2 ^ w, value (symbol d) = some d
  symbol_value : ∀ c d, value c = some d → d < 2 ^ w ∧ symbol d = c

namespace Alphabet

variable (A : Alphabet w)

def encode (bytes : List UInt8) : List Char :=
  (regroup 8 w (bytes.map UInt8.toNat)).map A.symbol

def decode (text : List Char) : Option (List UInt8) :=
  (text.mapM A.value).bind fun es => (ungroup 8 w es).map fun ds => ds.map UInt8.ofNat

variable {A}

lemma mapM_value (h : ∀ e ∈ es, e < 2 ^ w) : (es.map A.symbol).mapM A.value = some es := by
  induction es with
  | nil => rfl
  | cons e es ih =>
    have hrest := ih fun x hx => h x (List.mem_cons_of_mem e hx)
    simp [List.mapM_cons, A.value_symbol e (h e List.mem_cons_self), hrest]

lemma map_symbol {text : List Char} (h : text.mapM A.value = some es) :
    es.map A.symbol = text ∧ ∀ e ∈ es, e < 2 ^ w := by
  induction text generalizing es with
  | nil =>
    obtain rfl : [] = es := by simpa using h
    simp
  | cons c text ih =>
    simp only [List.mapM_cons, Option.bind_eq_bind, Option.bind_eq_some_iff] at h
    obtain ⟨d, hd, ds, hds, heq⟩ := h
    obtain rfl : d :: ds = es := by simpa using heq
    obtain ⟨hlt, rfl⟩ := A.symbol_value c d hd
    obtain ⟨rfl, hall⟩ := ih hds
    simpa using ⟨hlt, hall⟩

lemma toNat_lt (bytes : List UInt8) : ∀ d ∈ bytes.map UInt8.toNat, d < 2 ^ 8 := by
  intro d hd
  obtain ⟨b, _, rfl⟩ := List.mem_map.mp hd
  exact b.toNat_lt

lemma decode_encode (hw : 0 < w) (hw8 : w ≤ 8) (bytes : List UInt8) :
    A.decode (A.encode bytes) = some bytes := by
  have hsymbols : ∀ e ∈ regroup 8 w (bytes.map UInt8.toNat), e < 2 ^ w :=
    digits_lt (Nat.two_pow_pos w)
  simp [decode, encode, mapM_value hsymbols, ungroup_regroup hw hw8 (toNat_lt bytes),
    Function.comp_def]

/-- A text that is read at all is the one that would have been written. -/
theorem decode_eq_some (hw : 0 < w) (hw8 : w ≤ 8) {text : List Char} {bytes : List UInt8} :
    A.decode text = some bytes ↔ text = A.encode bytes := by
  constructor
  · intro h
    simp only [decode, Option.bind_eq_some_iff, Option.map_eq_some_iff] at h
    obtain ⟨es, hes, ds, hds, rfl⟩ := h
    obtain ⟨rfl, hlt⟩ := map_symbol hes
    obtain ⟨rfl, hbytes⟩ := regroup_ungroup hw hlt hds
    have hback : (ds.map UInt8.ofNat).map UInt8.toNat = ds := by
      rw [List.map_map]
      refine (List.map_congr_left ?_).trans (List.map_id ds)
      intro d hd
      exact UInt8.toNat_ofNat_of_lt (hbytes d hd)
    rw [encode, hback]
  · rintro rfl
    exact decode_encode hw hw8 bytes

end Alphabet

def symbol32 (d : ℕ) : Char := if d < 26 then Char.ofNat (65 + d) else Char.ofNat (24 + d)

def value32 (c : Char) : Option ℕ :=
  if 65 ≤ c.toNat ∧ c.toNat ≤ 90 then some (c.toNat - 65)
  else if 50 ≤ c.toNat ∧ c.toNat ≤ 55 then some (c.toNat - 24)
  else none

/-- The letters from A to Z, and the digits from 2 to 7. -/
def base32 : Alphabet 5 where
  symbol := symbol32
  value := value32
  value_symbol := by decide
  symbol_value := by
    intro c d h
    rw [value32] at h
    split_ifs at h with hletter hdigit
    · obtain rfl := Option.some.inj h
      refine ⟨by omega, ?_⟩
      rw [symbol32, if_pos (by omega), show 65 + (c.toNat - 65) = c.toNat by omega, Char.ofNat_toNat]
    · obtain rfl := Option.some.inj h
      refine ⟨by omega, ?_⟩
      rw [symbol32, if_neg (by omega), show 24 + (c.toNat - 24) = c.toNat by omega, Char.ofNat_toNat]

/-- With no padding, and of a text whose last bits are not zeros nothing is read. -/
example : base32.encode [102, 111] = ['M', 'Z', 'X', 'Q'] ∧ base32.decode ['M', 'Z', 'X', 'R'] = none ∧
    base32.decode ['M'] = none := by decide

end WalkieTalkie.Lib.Radix
