import WalkieTalkie.Proto

/-! The text of a node id: 64 hex digits of either case. What `display` writes is read back. -/

namespace WalkieTalkie.Proto

def hexValue (c : Char) : Option ℕ :=
  if 48 ≤ c.toNat ∧ c.toNat ≤ 57 then some (c.toNat - 48)
  else if 97 ≤ c.toNat ∧ c.toNat ≤ 102 then some (c.toNat - 87)
  else if 65 ≤ c.toNat ∧ c.toNat ≤ 70 then some (c.toNat - 55)
  else none

/-- `hex::decode`, which refuses an odd number of digits. -/
def fromHex : List Char → Option Bytes
  | [] => some []
  | [_] => none
  | high :: low :: rest =>
    match hexValue high, hexValue low, fromHex rest with
    | some h, some l, some bytes => some (UInt8.ofNat (16 * h + l) :: bytes)
    | _, _, _ => none

inductive NodeIdParseError
  | notHex
  | wrongLength (n : ℕ)
deriving DecidableEq

def NodeId.fromStr (s : String) : Except NodeIdParseError NodeId :=
  match fromHex s.toList with
  | none => .error .notHex
  | some bytes =>
    if h : bytes.length = 32 then .ok ⟨⟨bytes.toArray, h⟩⟩ else .error (.wrongLength bytes.length)

lemma hexValue_hexDigit {n : ℕ} (h : n < 16) : hexValue (hexDigit n) = some n := by
  have hall : ∀ k : Fin 16, hexValue (hexDigit k) = some k.val := by decide
  exact hall ⟨n, h⟩

lemma fromHex_digits (bytes : Bytes) :
    fromHex (bytes.flatMap fun b => [hexDigit (b.toNat / 16), hexDigit (b.toNat % 16)]) = some bytes := by
  induction bytes with
  | nil => rfl
  | cons b bytes ih =>
    have hb := b.toNat_lt
    have hhigh := hexValue_hexDigit (n := b.toNat / 16) (by omega)
    have hlow := hexValue_hexDigit (n := b.toNat % 16) (by omega)
    rw [List.flatMap_cons, List.cons_append, List.cons_append, List.nil_append, fromHex, hhigh, hlow, ih]
    dsimp only
    rw [Nat.div_add_mod, UInt8.ofNat_toNat]

lemma NodeId.fromStr_display (n : NodeId) : NodeId.fromStr n.display = .ok n := by
  have hdecode : fromHex n.display.toList = some n.bytes.toList := by
    rw [NodeId.display, hexEncode, String.toList_ofList, fromHex_digits]
  rw [NodeId.fromStr, hdecode]
  dsimp only
  rw [dif_pos (Vector.length_toList ..)]
  rfl

end WalkieTalkie.Proto
