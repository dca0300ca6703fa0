import Mathlib.Algebra.GroupWithZero.Nat
import Mathlib.Data.List.Basic

/-! CBOR as a serialiser of records writes it: every head in its shortest form, lengths known in
advance, a record as a map from field names to values, an enum value as a map from the name of the
variant, and a sequence of bytes as an array of integers. -/

namespace WalkieTalkie.Lib.Cbor

def bigEndian : ℕ → ℕ → List UInt8
  | 0, _ => []
  | width + 1, n => bigEndian width (n / 256) ++ [UInt8.ofNat n]

def head (major n : ℕ) : List UInt8 :=
  if n < 24 then [UInt8.ofNat (32 * major + n)]
  else if n < 256 then UInt8.ofNat (32 * major + 24) :: bigEndian 1 n
  else if n < 65536 then UInt8.ofNat (32 * major + 25) :: bigEndian 2 n
  else if n < 4294967296 then UInt8.ofNat (32 * major + 26) :: bigEndian 4 n
  else UInt8.ofNat (32 * major + 27) :: bigEndian 8 n

def uint (n : ℕ) : List UInt8 := head 0 n

def int (i : Int64) : List UInt8 :=
  if 0 ≤ i.toInt then uint i.toInt.toNat else head 1 (-1 - i.toInt).toNat

def bool (b : Bool) : List UInt8 := [if b then 0xF5 else 0xF4]

def optional {α : Type} (f : α → List UInt8) : Option α → List UInt8
  | none => [0xF6]
  | some a => f a

def text (s : String) : List UInt8 := head 3 s.utf8ByteSize ++ s.toByteArray.data.toList

def array (items : List (List UInt8)) : List UInt8 := head 4 items.length ++ items.flatten

def byteArray (bytes : List UInt8) : List UInt8 := array (bytes.map fun b => uint b.toNat)

def record (fields : List (String × List UInt8)) : List UInt8 :=
  head 5 fields.length ++ fields.flatMap fun f => text f.1 ++ f.2

def variant (name : String) (body : List UInt8) : List UInt8 := record [(name, body)]

def headLength (n : ℕ) : ℕ :=
  if n < 24 then 1 else if n < 256 then 2 else if n < 65536 then 3 else if n < 4294967296 then 5 else 9

def fromBigEndian (bytes : List UInt8) : ℕ := bytes.foldl (fun n b => n * 256 + b.toNat) 0

lemma fromBigEndian_snoc (bytes : List UInt8) (b : UInt8) :
    fromBigEndian (bytes ++ [b]) = fromBigEndian bytes * 256 + b.toNat := by
  rw [fromBigEndian, List.foldl_append]
  rfl

lemma fromBigEndian_bigEndian (width n : ℕ) : fromBigEndian (bigEndian width n) = n % 256 ^ width := by
  induction width generalizing n with
  | zero => exact (Nat.mod_one n).symm
  | succ width ih =>
    have hbyte : (UInt8.ofNat n).toNat = n % 256 := UInt8.toNat_ofNat
    rw [bigEndian, fromBigEndian_snoc, ih, hbyte, Nat.pow_succ, Nat.mul_comm (256 ^ width), Nat.mod_mul]
    omega

lemma length_bigEndian (width n : ℕ) : (bigEndian width n).length = width := by
  induction width generalizing n with
  | zero => rfl
  | succ width ih => simp [bigEndian, ih]

lemma length_head (major n : ℕ) : (head major n).length = headLength n := by
  rw [head, headLength]
  split_ifs <;> simp [length_bigEndian]

lemma headLength_le (n : ℕ) : headLength n ≤ 9 := by
  rw [headLength]
  split_ifs <;> omega

lemma length_uint (n : ℕ) : (uint n).length = headLength n := length_head 0 n

lemma length_text (s : String) : (text s).length = headLength s.utf8ByteSize + s.utf8ByteSize := by
  rw [text, List.length_append, length_head, Array.length_toList]
  rfl

lemma length_uint_byte (b : UInt8) :
    (uint b.toNat).length = 1 + if (24 : UInt8) ≤ b then 1 else 0 := by
  have hlt := b.toNat_lt
  have hle : (24 : UInt8) ≤ b ↔ 24 ≤ b.toNat := UInt8.le_iff_toNat_le
  rw [length_uint, headLength]
  simp only [hle]
  split_ifs <;> omega

lemma length_byteArray (bytes : List UInt8) : (byteArray bytes).length =
    headLength bytes.length + (bytes.length + bytes.countP fun b => 24 ≤ b) := by
  rw [byteArray, array, List.length_append, length_head, List.length_map]
  congr 1
  induction bytes with
  | nil => rfl
  | cons b bytes ih =>
    rw [List.map_cons, List.flatten_cons, List.length_append, ih, length_uint_byte,
      List.countP_cons, List.length_cons]
    simp only [decide_eq_true_eq]
    omega

lemma length_record (fields : List (String × List UInt8)) : (record fields).length =
    headLength fields.length + (fields.map fun f => (text f.1).length + f.2.length).sum := by
  rw [record, List.length_append, length_head, List.length_flatMap]
  simp only [List.length_append]

lemma length_variant (name : String) (body : List UInt8) :
    (variant name body).length = 1 + (text name).length + body.length := by
  rw [variant, length_record]
  simp [headLength, Nat.add_assoc]

end WalkieTalkie.Lib.Cbor
