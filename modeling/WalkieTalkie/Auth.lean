import Mathlib.Algebra.Group.Nat.Defs
import WalkieTalkie.Store.Trust

/-! Token signing and verification. Ed25519 and CBOR are libraries of the program; what the code
relies on is a field of `Libraries`. Clock readings and random bytes are arguments, and so are the
answers of the store, where a failed read is an error. -/

namespace WalkieTalkie.Auth

open Proto Store

structure Ed25519 where
  SecretKey : Type
  PublicKey : Type
  publicOf : SecretKey → PublicKey
  asBytes : PublicKey → NodeId
  fromBytes : NodeId → Option PublicKey
  sign : SecretKey → Bytes → Bytes
  verify : PublicKey → Bytes → Bytes → Bool
  fromBytes_asBytes : ∀ pk, fromBytes (asBytes pk) = some pk
  sign_length : ∀ sk m, (sign sk m).length = 64
  verify_sign : ∀ sk m, verify (publicOf sk) m (sign sk m) = true

structure Libraries where
  ed : Ed25519
  claims : Codec CapabilityToken
  signed : Codec SignedToken

inductive AuthError
  | badSignature
  | badClaims
  | expired (exp now : UInt64)
  | subjectMismatch
  | revoked
  | missingCap (cap : Cap)
  | notForUs
  | peerNotKnown (nodeid : NodeId)
deriving DecidableEq

def AuthError.display : AuthError → String
  | .badSignature => "bad signature"
  | .badClaims => "malformed claims"
  | .expired exp now => s!"token expired (exp={exp}, now={now})"
  | .subjectMismatch => "subject mismatch: token.sub != initiator"
  | .revoked => "token revoked"
  | .missingCap cap => s!"missing required capability: {cap.display}"
  | .notForUs => "issuer pubkey is not the local identity"
  | .peerNotKnown nodeid => s!"peer not authorized: {nodeid.display}"

def clockSkewSecs : Int64 := 300

def saturatingAdd (a b : UInt64) : UInt64 :=
  if a.toNat + b.toNat < UInt64.size then a + b else UInt64.ofNat (UInt64.size - 1)

variable (lib : Libraries)

def nodeidOf (secret : lib.ed.SecretKey) : NodeId :=
  lib.ed.asBytes (lib.ed.publicOf secret)

def signToken (issuer : lib.ed.SecretKey) (sub : NodeId) (caps : List Cap)
    (ttlSecs : Option UInt64) (now : UInt64) (id : TokenId) : CapabilityToken × SignedToken :=
  let exp := match ttlSecs with
    | some ttl => saturatingAdd now ttl
    | none => 4102444800
  let claims : CapabilityToken := ⟨nodeidOf lib issuer, sub, exp, caps, id⟩
  let claimsCbor := lib.claims.encode claims
  (claims, ⟨claimsCbor, lib.ed.sign issuer claimsCbor⟩)

def verifySignedClaims (signed : SignedToken) : Except AuthError CapabilityToken :=
  match lib.claims.decode signed.claimsCbor with
  | .error _ => .error .badClaims
  | .ok claims =>
    match lib.ed.fromBytes claims.iss with
    | none => .error .badSignature
    | some issPk =>
      if signed.sig.length = 64 then
        if lib.ed.verify issPk signed.claimsCbor signed.sig then .ok claims
        else .error .badSignature
      else .error .badSignature

def validateClaims (claims : CapabilityToken) (requiredCap : Cap) (now : UInt64)
    (found : Except String (Option TokenRow)) : Except AuthError Unit :=
  if now.toInt64 - clockSkewSecs > claims.exp.toInt64 then .error (.expired claims.exp now)
  else if (match found with | .ok (some row) => row.revoked | _ => false) then .error .revoked
  else if claims.caps.contains requiredCap then .ok ()
  else .error (.missingCap requiredCap)

def verifyToken (signed : SignedToken) (localNodeid initiator : NodeId) (requiredCap : Cap)
    (now : UInt64) (tokenFind : TokenId → Except String (Option TokenRow)) :
    Except AuthError CapabilityToken :=
  match verifySignedClaims lib signed with
  | .error e => .error e
  | .ok claims =>
    if claims.iss ≠ localNodeid then .error .notForUs
    else if claims.sub ≠ initiator then .error .subjectMismatch
    else
      match validateClaims claims requiredCap now (tokenFind claims.id) with
      | .error e => .error e
      | .ok () => .ok claims

def tokenRow (claims : CapabilityToken) (signed : SignedToken) : TokenRow :=
  ⟨claims.id, claims.iss, claims.sub, claims.exp, claims.caps, lib.signed.encode signed, false⟩

def requirePeerKnown (nodeid : NodeId) (found : Except String (Option PeerRow)) :
    Except AuthError Unit :=
  match found with
  | .ok (some _) => .ok ()
  | _ => .error (.peerNotKnown nodeid)

variable {lib}

lemma verifySignedClaims_signToken (issuer : lib.ed.SecretKey) (sub : NodeId) (caps : List Cap)
    (ttlSecs : Option UInt64) (now : UInt64) (id : TokenId) :
    verifySignedClaims lib (signToken lib issuer sub caps ttlSecs now id).2 =
      .ok (signToken lib issuer sub caps ttlSecs now id).1 := by
  simp [verifySignedClaims, signToken, lib.claims.decode_encode, nodeidOf,
    lib.ed.fromBytes_asBytes, lib.ed.sign_length, lib.ed.verify_sign]

lemma verifySignedClaims_ok {signed : SignedToken} {claims : CapabilityToken}
    (h : verifySignedClaims lib signed = .ok claims) :
    lib.claims.decode signed.claimsCbor = .ok claims ∧ ∃ pk, lib.ed.fromBytes claims.iss = some pk ∧
      lib.ed.verify pk signed.claimsCbor signed.sig = true := by
  rw [verifySignedClaims] at h
  split at h
  · cases h
  · next c hc =>
    split at h
    · cases h
    · next pk hpk =>
      split_ifs at h with hlen hok
      obtain rfl := Except.ok.inj h
      exact ⟨hc, pk, hpk, hok⟩

lemma within_skew {now exp : UInt64} (h : ¬ now.toInt64 - clockSkewSecs > exp.toInt64)
    (hnow : now.toNat < 2 ^ 63) : now.toNat ≤ exp.toNat + 300 := by
  have hle : (now.toInt64 - clockSkewSecs).toInt ≤ exp.toInt64.toInt :=
    Int64.le_iff_toInt_le.mp (Int64.not_lt.mp h)
  have hskew : clockSkewSecs.toInt = 300 := rfl
  have hnow' : now.toInt64.toInt = now.toNat :=
    BitVec.toInt_eq_toNat_of_lt (show 2 * now.toNat < 2 ^ 64 by omega)
  have hexp : exp.toInt64.toInt ≤ exp.toNat := by
    rw [show exp.toInt64.toInt = exp.toBitVec.toInt from rfl, BitVec.toInt_eq_toNat_cond,
      UInt64.toNat_toBitVec]
    split <;> omega
  rw [Int64.toInt_sub, hnow', hskew, Int.bmod_eq_of_le (by omega) (by omega)] at hle
  omega

lemma validateClaims_ok {claims : CapabilityToken} {requiredCap : Cap} {now : UInt64}
    {found : Except String (Option TokenRow)} :
    validateClaims claims requiredCap now found = .ok () ↔
      ¬ now.toInt64 - clockSkewSecs > claims.exp.toInt64 ∧
        (∀ row, found = .ok (some row) → row.revoked = false) ∧ requiredCap ∈ claims.caps := by
  unfold validateClaims
  split_ifs with hexp hrev hcap
  · simp [hexp]
  · cases found with
    | error _ => simp at hrev
    | ok answer =>
      cases answer with
      | none => simp at hrev
      | some row => simp [show row.revoked = true from hrev]
  · cases found with
    | error _ => simpa [hexp] using hcap
    | ok answer =>
      cases answer with
      | none => simpa [hexp] using hcap
      | some row => simpa [hexp, show row.revoked = false by simpa using hrev] using hcap
  · simp [show requiredCap ∉ claims.caps by simpa using hcap]

lemma verifyToken_ok {signed : SignedToken} {localNodeid initiator : NodeId} {requiredCap : Cap}
    {now : UInt64} {tokenFind : TokenId → Except String (Option TokenRow)}
    {claims : CapabilityToken} :
    verifyToken lib signed localNodeid initiator requiredCap now tokenFind = .ok claims ↔
      verifySignedClaims lib signed = .ok claims ∧ claims.iss = localNodeid ∧
        claims.sub = initiator ∧
        validateClaims claims requiredCap now (tokenFind claims.id) = .ok () := by
  unfold verifyToken
  cases hv : verifySignedClaims lib signed with
  | error e => simp
  | ok c =>
    simp only [ne_eq, ite_not, Except.ok.injEq]
    constructor
    · intro h
      split_ifs at h with hiss hsub
      cases hval : validateClaims c requiredCap now (tokenFind c.id) with
      | error e => simp [hval] at h
      | ok u =>
        obtain rfl : c = claims := by simpa [hval] using h
        exact ⟨rfl, hiss, hsub, hval⟩
    · rintro ⟨rfl, hiss, hsub, hval⟩
      simp [hiss, hsub, hval]

end WalkieTalkie.Auth
