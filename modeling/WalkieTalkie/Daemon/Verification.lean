import WalkieTalkie.Auth
import WalkieTalkie.Lib.Signed
import WalkieTalkie.Sample

/-! When the token of an initiator is accepted. The revocation of a token is looked up in the store,
and the lookup may fail; the expiry is compared as a signed integer. -/

namespace WalkieTalkie.Daemon.Verification

open Proto Store Auth Lib

section Definitions

variable (lib : Libraries) (signed : SignedToken) (localNodeid initiator : NodeId) (required : Cap)
  (now : UInt64) (tokenFind : TokenId → Except String (Option TokenRow))

/-- What is asked of the claims apart from the clock and the store. -/
structure Granted (claims : CapabilityToken) : Prop where
  decodes : lib.claims.decode signed.claimsCbor = .ok claims
  signature : ∃ pk, lib.ed.fromBytes claims.iss = some pk ∧ signed.sig.length = 64 ∧
    lib.ed.verify pk signed.claimsCbor signed.sig = true
  issuer : claims.iss = localNodeid
  subject : claims.sub = initiator
  cap : required ∈ claims.caps

/-- The store answered, and what it found is not revoked. -/
def NotRevoked : Except String (Option TokenRow) → Prop
  | .error _ => False
  | .ok none => True
  | .ok (some row) => row.revoked = false

/-- The rules for a token that is to be accepted. -/
def Acceptable : Prop := ∃ claims, Granted lib signed localNodeid initiator required claims ∧
  (now.toNat : ℤ) - 300 ≤ claims.exp.toNat ∧ NotRevoked (tokenFind claims.id)

def Accepted : Prop :=
  ∃ claims, verifyToken lib signed localNodeid initiator required now tokenFind = .ok claims

end Definitions

/-- The clock less the skew, and the expiry, are on the same side of the sign. -/
def SameSide (now exp : UInt64) : Prop :=
  if 300 ≤ now.toNat then now.toNat - 300 < 2 ^ 63 ↔ exp.toNat < 2 ^ 63
  else exp.toNat < 2 ^ 63 ∨ 2 ^ 64 + now.toNat ≤ exp.toNat + 300

/-- What the store must answer for a token that is otherwise good. -/
def Decides (now exp : UInt64) : Except String (Option TokenRow) → Prop
  | .error _ => now.toInt64 - clockSkewSecs > exp.toInt64
  | .ok none => SameSide now exp
  | .ok (some row) => row.revoked = true ∨ SameSide now exp

lemma sameSide_iff {now exp : UInt64} : SameSide now exp ↔
    (¬ now.toInt64 - clockSkewSecs > exp.toInt64 ↔ (now.toNat : ℤ) - 300 ≤ exp.toNat) := by
  have hskew : now.toInt64 - clockSkewSecs = (now - 300).toInt64 := rfl
  have hnow := now.toNat_lt
  have hexp := exp.toNat_lt
  rw [gt_iff_lt, hskew, Signed.toInt64_lt, SameSide, UInt64.toNat_sub]
  have h300 : (300 : UInt64).toNat = 300 := rfl
  rw [h300]
  split
  · next h =>
    have hmod : (2 ^ 64 - 300 + now.toNat) % 2 ^ 64 = now.toNat - 300 := by omega
    rw [hmod]
    omega
  · next h =>
    have hmod : (2 ^ 64 - 300 + now.toNat) % 2 ^ 64 = 2 ^ 64 - 300 + now.toNat := by omega
    rw [hmod]
    omega

section

variable {lib : Libraries} {signed : SignedToken} {localNodeid initiator : NodeId} {required : Cap}
  {now : UInt64} {tokenFind : TokenId → Except String (Option TokenRow)} {claims : CapabilityToken}

lemma Granted.unique {claims' : CapabilityToken}
    (h : Granted lib signed localNodeid initiator required claims)
    (h' : Granted lib signed localNodeid initiator required claims') : claims' = claims :=
  Except.ok.inj (h'.decodes.symm.trans h.decodes)

lemma verifySignedClaims_iff : verifySignedClaims lib signed = .ok claims ↔
    lib.claims.decode signed.claimsCbor = .ok claims ∧ ∃ pk, lib.ed.fromBytes claims.iss = some pk ∧
      signed.sig.length = 64 ∧ lib.ed.verify pk signed.claimsCbor signed.sig = true := by
  constructor
  · intro h
    obtain ⟨hdecode, pk, hpk, hok⟩ := verifySignedClaims_ok h
    refine ⟨hdecode, pk, hpk, ?_, hok⟩
    by_contra hlen
    simp [verifySignedClaims, hdecode, hpk, hlen] at h
  · rintro ⟨hdecode, pk, hpk, hlen, hok⟩
    simp [verifySignedClaims, hdecode, hpk, hlen, hok]

lemma verifyToken_iff :
    verifyToken lib signed localNodeid initiator required now tokenFind = .ok claims ↔
      Granted lib signed localNodeid initiator required claims ∧
        ¬ now.toInt64 - clockSkewSecs > claims.exp.toInt64 ∧
        ∀ row, tokenFind claims.id = .ok (some row) → row.revoked = false := by
  rw [verifyToken_ok, verifySignedClaims_iff, validateClaims_ok]
  constructor
  · rintro ⟨⟨hdecode, hsig⟩, hiss, hsub, htime, hrev, hcap⟩
    exact ⟨⟨hdecode, hsig, hiss, hsub, hcap⟩, htime, hrev⟩
  · rintro ⟨h, htime, hrev⟩
    exact ⟨⟨h.decodes, h.signature⟩, h.issuer, h.subject, htime, hrev, h.cap⟩

lemma accepted_iff (h : Granted lib signed localNodeid initiator required claims) :
    Accepted lib signed localNodeid initiator required now tokenFind ↔
      ¬ now.toInt64 - clockSkewSecs > claims.exp.toInt64 ∧
        ∀ row, tokenFind claims.id = .ok (some row) → row.revoked = false := by
  constructor
  · rintro ⟨claims', hv⟩
    obtain ⟨hg, hrest⟩ := verifyToken_iff.mp hv
    obtain rfl := h.unique hg
    exact hrest
  · exact fun hrest => ⟨claims, verifyToken_iff.mpr ⟨h, hrest⟩⟩

lemma acceptable_iff (h : Granted lib signed localNodeid initiator required claims) :
    Acceptable lib signed localNodeid initiator required now tokenFind ↔
      (now.toNat : ℤ) - 300 ≤ claims.exp.toNat ∧ NotRevoked (tokenFind claims.id) := by
  constructor
  · rintro ⟨claims', hg, hrest⟩
    obtain rfl := h.unique hg
    exact hrest
  · exact fun hrest => ⟨claims, h, hrest⟩

lemma agrees_iff_decides (h : Granted lib signed localNodeid initiator required claims) :
    (Accepted lib signed localNodeid initiator required now tokenFind ↔
      Acceptable lib signed localNodeid initiator required now tokenFind) ↔
    Decides now claims.exp (tokenFind claims.id) := by
  rw [accepted_iff h, acceptable_iff h]
  cases tokenFind claims.id with
  | error e => simp [NotRevoked, Decides]
  | ok answer =>
    cases answer with
    | none => simp only [NotRevoked, Decides, sameSide_iff, reduceCtorEq, Except.ok.injEq,
        false_implies, implies_true, and_true]
    | some row =>
      cases hrev : row.revoked with
      | true => simp [NotRevoked, Decides, hrev]
      | false => simp [NotRevoked, Decides, hrev, sameSide_iff]

end

/-- The verification keeps its rules, and fails closed, exactly when for a token that is otherwise good
the store decides. -/
theorem verification_fails_closed_iff (lib : Libraries) (signed : SignedToken)
    (localNodeid initiator : NodeId) (required : Cap) (now : UInt64)
    (tokenFind : TokenId → Except String (Option TokenRow)) :
    (Accepted lib signed localNodeid initiator required now tokenFind ↔
      Acceptable lib signed localNodeid initiator required now tokenFind) ↔
    ∀ claims, Granted lib signed localNodeid initiator required claims →
      Decides now claims.exp (tokenFind claims.id) := by
  constructor
  · exact fun hagree claims h => (agrees_iff_decides h).mp hagree
  · intro hall
    by_cases hg : ∃ claims, Granted lib signed localNodeid initiator required claims
    · obtain ⟨claims, h⟩ := hg
      exact (agrees_iff_decides h).mpr (hall claims h)
    · constructor
      · rintro ⟨claims, hv⟩
        exact (hg ⟨claims, (verifyToken_iff.mp hv).1⟩).elim
      · rintro ⟨claims, h, _⟩
        exact (hg ⟨claims, h⟩).elim

def hourToken : CapabilityToken × SignedToken :=
  signToken Sample.libraries (Sample.node 1) (Sample.node 2) [.msg] (some 3600) 1000
    (Sample.tokenId 7)

theorem failed_lookup_accepts :
    Accepted Sample.libraries hourToken.2 (Sample.node 1) (Sample.node 2) .msg 1000
      (fun _ => .error "database disk image is malformed") ∧
    ¬ Acceptable Sample.libraries hourToken.2 (Sample.node 1) (Sample.node 2) .msg 1000
      fun _ => .error "database disk image is malformed" := by
  refine ⟨⟨hourToken.1, by decide +kernel⟩, ?_⟩
  rintro ⟨_, _, _, hfound⟩
  exact hfound

end WalkieTalkie.Daemon.Verification
