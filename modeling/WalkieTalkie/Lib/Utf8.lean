import Mathlib.Data.List.Basic
import Mathlib.Data.List.TakeWhile

/-! Lossy UTF-8 decoding as `String::from_utf8_lossy` does it: every maximal prefix of a sequence
that is not continued as UTF-8 requires becomes one replacement character. -/

namespace WalkieTalkie.Lib.Utf8

def width (b : UInt8) : ℕ :=
  if b < 0x80 then 1
  else if 0xC2 ≤ b ∧ b ≤ 0xDF then 2
  else if 0xE0 ≤ b ∧ b ≤ 0xEF then 3
  else if 0xF0 ≤ b ∧ b ≤ 0xF4 then 4
  else 0

def isCont (b : UInt8) : Bool := 0x80 ≤ b && b ≤ 0xBF

def isSecond (first b : UInt8) : Bool :=
  if first = 0xE0 then 0xA0 ≤ b && b ≤ 0xBF
  else if first = 0xED then 0x80 ≤ b && b ≤ 0x9F
  else if first = 0xF0 then 0x90 ≤ b && b ≤ 0xBF
  else if first = 0xF4 then 0x80 ≤ b && b ≤ 0x8F
  else isCont b

def continuation (first : UInt8) : List UInt8 → List UInt8
  | [] => []
  | b :: rest =>
    if 2 ≤ width first && isSecond first b then b :: (rest.take (width first - 2)).takeWhile isCont
    else []

def leadBits (first : UInt8) : ℕ :=
  match width first with
  | 1 => first.toNat
  | 2 => first.toNat - 0xC0
  | 3 => first.toNat - 0xE0
  | _ => first.toNat - 0xF0

def decodeFirst (first : UInt8) (tail : List UInt8) : Char :=
  if tail.length + 1 = width first then
    Char.ofNat (tail.foldl (fun n b => 64 * n + (b.toNat - 0x80)) (leadBits first))
  else Char.ofNat 0xFFFD

def decodeChars : List UInt8 → List Char
  | [] => []
  | first :: rest =>
    let tail := continuation first rest
    decodeFirst first tail :: decodeChars (rest.drop tail.length)
termination_by bytes => bytes.length
decreasing_by
  simp only [List.length_drop, List.length_cons]
  omega

def fromUtf8Lossy (bytes : List UInt8) : String := String.ofList (decodeChars bytes)

def encodeChars (cs : List Char) : List UInt8 := cs.flatMap String.utf8EncodeChar

variable {first : UInt8} {tail rest : List UInt8}

structure WellFormed (first : UInt8) (tail : List UInt8) : Prop where
  length : width first = tail.length + 1
  second : ∀ b ∈ tail.head?, isSecond first b = true
  more : ∀ b ∈ tail.tail, isCont b = true

lemma WellFormed.continuation (h : WellFormed first tail) :
    continuation first (tail ++ rest) = tail := by
  cases tail with
  | nil =>
    cases rest with
    | nil => rfl
    | cons b rest =>
      have hw : ¬ 2 ≤ width first := by
        rw [h.length]
        decide
      simp [Utf8.continuation, hw]
  | cons b more =>
    have hw : width first - 2 = more.length := by
      rw [h.length, List.length_cons]
      omega
    have hle : 2 ≤ width first := by
      rw [h.length, List.length_cons]
      omega
    have hmore : more.takeWhile isCont = more := List.takeWhile_eq_self_iff.mpr h.more
    rw [List.cons_append, Utf8.continuation, hw, List.take_left, hmore]
    simp [hle, h.second b rfl]

lemma WellFormed.decodeChars (h : WellFormed first tail) :
    decodeChars (first :: (tail ++ rest)) =
      Char.ofNat (tail.foldl (fun n b => 64 * n + (b.toNat - 0x80)) (leadBits first)) ::
        decodeChars rest := by
  rw [Utf8.decodeChars, h.continuation, List.drop_left, decodeFirst, if_pos h.length.symm]

lemma toNat_ofNat {n : ℕ} (h : n < 256) : (UInt8.ofNat n).toNat = n := by
  rw [UInt8.toNat_ofNat']
  omega

lemma width_ofNat {n : ℕ} (h : n < 256) : width (UInt8.ofNat n) =
    if n < 128 then 1 else if 194 ≤ n ∧ n ≤ 223 then 2 else if 224 ≤ n ∧ n ≤ 239 then 3
    else if 240 ≤ n ∧ n ≤ 244 then 4 else 0 := by
  simp only [width, UInt8.lt_iff_toNat_lt, UInt8.le_iff_toNat_le, toNat_ofNat h]
  rfl

lemma isCont_ofNat {n : ℕ} (h : n < 256) (hn : 128 ≤ n ∧ n ≤ 191) :
    isCont (UInt8.ofNat n) = true := by
  simp only [isCont, UInt8.le_iff_toNat_le, toNat_ofNat h, Bool.and_eq_true, decide_eq_true_eq]
  exact hn

lemma isSecond_ofNat {m n : ℕ} (hm : m < 256) (h : n < 256) (hn : 128 ≤ n ∧ n ≤ 191)
    (h224 : m = 224 → 160 ≤ n) (h237 : m = 237 → n ≤ 159) (h240 : m = 240 → 144 ≤ n)
    (h244 : m = 244 → n ≤ 143) : isSecond (UInt8.ofNat m) (UInt8.ofNat n) = true := by
  have heq : ∀ k : ℕ, k < 256 → (UInt8.ofNat m = UInt8.ofNat k ↔ m = k) := by
    intro k hk
    rw [← UInt8.toNat_inj, toNat_ofNat hm, toNat_ofNat hk]
  have hcont := isCont_ofNat h hn
  simp only [isSecond, UInt8.le_iff_toNat_le, toNat_ofNat h]
  split
  · next hfirst =>
    have hlow := h224 ((heq 224 (by decide)).mp hfirst)
    simp [hlow, hn.2]
  · split
    · next hfirst =>
      have hhigh := h237 ((heq 237 (by decide)).mp hfirst)
      simp [hhigh, hn.1]
    · split
      · next hfirst =>
        have hlow := h240 ((heq 240 (by decide)).mp hfirst)
        simp [hlow, hn.2]
      · split
        · next hfirst =>
          have hhigh := h244 ((heq 244 (by decide)).mp hfirst)
          simp [hhigh, hn.1]
        · exact hcont

lemma ofNat_toNat {c : Char} {n : ℕ} (h : n = c.val.toNat) : Char.ofNat n = c := by
  rw [h]
  exact Char.ofNat_toNat c

lemma decodeChars_encodeChar (c : Char) (rest : List UInt8) :
    decodeChars (String.utf8EncodeChar c ++ rest) = c :: decodeChars rest := by
  have hvalid : c.val.toNat < 0xd800 ∨ 0xdfff < c.val.toNat ∧ c.val.toNat < 0x110000 := c.valid
  rw [String.utf8EncodeChar]
  split
  · next h =>
    have hw : WellFormed (UInt8.ofNat c.val.toNat) [] := by
      refine ⟨?_, fun b hb => (by cases hb), fun b hb => (by cases hb)⟩
      rw [width_ofNat (by omega), if_pos (by omega)]
      rfl
    refine hw.decodeChars.trans (congrArg (· :: decodeChars rest) (ofNat_toNat ?_))
    rw [List.foldl_nil, leadBits, hw.length]
    exact toNat_ofNat (by omega)
  · split
    · next h =>
      have hw : WellFormed (UInt8.ofNat (c.val.toNat / 64 % 0x20 + 0xc0))
          [UInt8.ofNat (c.val.toNat % 0x40 + 0x80)] := by
        refine ⟨?_, fun b hb => ?_, fun b hb => by cases hb⟩
        · rw [width_ofNat (by omega), if_neg (by omega), if_pos (by omega)]
          rfl
        · cases hb
          exact isSecond_ofNat (by omega) (by omega) (by omega) (by omega) (by omega) (by omega)
            (by omega)
      refine hw.decodeChars.trans (congrArg (· :: decodeChars rest) (ofNat_toNat ?_))
      simp only [List.foldl_cons, List.foldl_nil, leadBits, hw.length, List.length_singleton]
      rw [toNat_ofNat (by omega), toNat_ofNat (by omega)]
      omega
    · split
      · next h =>
        have hw : WellFormed (UInt8.ofNat (c.val.toNat / 4096 % 0x10 + 0xe0))
            [UInt8.ofNat (c.val.toNat / 64 % 0x40 + 0x80),
              UInt8.ofNat (c.val.toNat % 0x40 + 0x80)] := by
          refine ⟨?_, fun b hb => ?_, fun b hb => ?_⟩
          · rw [width_ofNat (by omega), if_neg (by omega), if_neg (by omega), if_pos (by omega)]
            rfl
          · cases hb
            exact isSecond_ofNat (by omega) (by omega) (by omega) (by omega) (by omega) (by omega)
              (by omega)
          · cases List.mem_singleton.mp hb
            exact isCont_ofNat (by omega) (by omega)
        refine hw.decodeChars.trans (congrArg (· :: decodeChars rest) (ofNat_toNat ?_))
        simp only [List.foldl_cons, List.foldl_nil, leadBits, hw.length, List.length_cons,
          List.length_nil]
        rw [toNat_ofNat (by omega), toNat_ofNat (by omega), toNat_ofNat (by omega)]
        omega
      · next h =>
        have hw : WellFormed (UInt8.ofNat (c.val.toNat / 262144 % 0x08 + 0xf0))
            [UInt8.ofNat (c.val.toNat / 4096 % 0x40 + 0x80),
              UInt8.ofNat (c.val.toNat / 64 % 0x40 + 0x80),
              UInt8.ofNat (c.val.toNat % 0x40 + 0x80)] := by
          refine ⟨?_, fun b hb => ?_, fun b hb => ?_⟩
          · rw [width_ofNat (by omega), if_neg (by omega), if_neg (by omega), if_neg (by omega),
              if_pos (by omega)]
            rfl
          · cases hb
            exact isSecond_ofNat (by omega) (by omega) (by omega) (by omega) (by omega) (by omega)
              (by omega)
          · rcases List.mem_cons.mp hb with rfl | hb
            · exact isCont_ofNat (by omega) (by omega)
            · cases List.mem_singleton.mp hb
              exact isCont_ofNat (by omega) (by omega)
        refine hw.decodeChars.trans (congrArg (· :: decodeChars rest) (ofNat_toNat ?_))
        simp only [List.foldl_cons, List.foldl_nil, leadBits, hw.length, List.length_cons,
          List.length_nil]
        rw [toNat_ofNat (by omega), toNat_ofNat (by omega), toNat_ofNat (by omega),
          toNat_ofNat (by omega)]
        omega

lemma decodeChars_encodeChars (cs : List Char) (rest : List UInt8) :
    decodeChars (encodeChars cs ++ rest) = cs ++ decodeChars rest := by
  induction cs with
  | nil => rfl
  | cons c cs ih =>
    rw [encodeChars, List.flatMap_cons, List.append_assoc, decodeChars_encodeChar]
    exact congrArg (c :: ·) ih

lemma fromUtf8Lossy_encodeChars (cs : List Char) : fromUtf8Lossy (encodeChars cs) = String.ofList cs := by
  have h := decodeChars_encodeChars cs []
  rw [List.append_nil] at h
  rw [fromUtf8Lossy, h, decodeChars, List.append_nil]

end WalkieTalkie.Lib.Utf8
