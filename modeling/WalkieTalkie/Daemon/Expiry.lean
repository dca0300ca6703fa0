import WalkieTalkie.Daemon.Verification

/-! How long a token lives. The expiry is set by a saturating addition, stored as a signed integer,
compared as one by the holder who selects a token and once more, with the skew, by the issuer who
verifies it. Clock values are below 2^62. -/

namespace WalkieTalkie.Daemon.Expiry

open Proto Store Auth Lib Verification

section Definitions

variable (lib : Libraries) (issuer : lib.ed.SecretKey) (sub : NodeId) (caps : List Cap) (s : UInt64)
  (id : TokenId) (ttl : Option UInt64)

def granted : CapabilityToken × SignedToken := signToken lib issuer sub caps ttl s id

def imported : TokenRow :=
  tokenRow lib (granted lib issuer sub caps s id ttl).1 (granted lib issuer sub caps s id ttl).2

def expiry : UInt64 := (granted lib issuer sub caps s id ttl).1.exp

/-- The holder counts the row among those it may select. -/
def Unexpired (row : TokenRow) (t : UInt64) : Prop :=
  ∀ table : TokenTable, row ∈ table.rows → row ∈ table.tokenCandidates row.iss row.sub t

/-- The issuer answers that a token is expired. -/
def AnswersExpired (signed : SignedToken) (localNodeid initiator : NodeId) (required : Cap)
    (t : UInt64) (tokenFind : TokenId → Except String (Option TokenRow)) : Prop :=
  ∃ exp now, verifyToken lib signed localNodeid initiator required t tokenFind =
    .error (.expired exp now)

/-- The issuer finds the token expired when its subject presents it. -/
def Lapsed (t : UInt64) : Prop :=
  ∀ required tokenFind, AnswersExpired lib (granted lib issuer sub caps s id ttl).2
    (nodeidOf lib issuer) sub required t tokenFind

structure LivesItsTtl : Prop where
  held : ∀ t : UInt64, t.toNat < 2 ^ 62 → s ≤ t → t < expiry lib issuer sub caps s id ttl →
    Unexpired (imported lib issuer sub caps s id ttl) t
  honoured : ∀ t t' : UInt64, t.toNat < 2 ^ 62 → t'.toNat < 2 ^ 62 → s ≤ t →
    t < expiry lib issuer sub caps s id ttl → s ≤ t' → t'.toNat ≤ t.toNat + 300 →
    ∀ localNodeid initiator required tokenFind, ¬ AnswersExpired lib
      (granted lib issuer sub caps s id ttl).2 localNodeid initiator required t' tokenFind
  unselected : ∀ t : UInt64, t.toNat < 2 ^ 62 → expiry lib issuer sub caps s id ttl ≤ t →
    ∀ (table : TokenTable) iss sub' required answer,
      table.FindTokenWithCap iss sub' required t answer →
      answer ≠ some (imported lib issuer sub caps s id ttl)
  refused : ∀ t : UInt64, t.toNat < 2 ^ 62 →
    (expiry lib issuer sub caps s id ttl).toNat + 300 < t.toNat →
    Lapsed lib issuer sub caps s id ttl t
  longer : ∀ n m : UInt64, ttl = some n → m ≤ n → ∀ t : UInt64, t.toNat < 2 ^ 62 →
    (Unexpired (imported lib issuer sub caps s id (some m)) t →
      Unexpired (imported lib issuer sub caps s id ttl) t) ∧
    (Lapsed lib issuer sub caps s id ttl t → Lapsed lib issuer sub caps s id (some m) t)

end Definitions

/-- The expiry is a positive signed integer. -/
def InRange (s : UInt64) : Option UInt64 → Prop
  | none => True
  | some ttl => s.toNat + ttl.toNat < 2 ^ 63

variable {lib : Libraries} {issuer : lib.ed.SecretKey} {sub : NodeId} {caps : List Cap} {s : UInt64}
  {id : TokenId} {ttl : Option UInt64}

lemma toNat_saturatingAdd (a b : UInt64) :
    (saturatingAdd a b).toNat = min (a.toNat + b.toNat) (2 ^ 64 - 1) := by
  have ha := a.toNat_lt
  have hb := b.toNat_lt
  rw [saturatingAdd]
  split
  · next h =>
    rw [UInt64.size] at h
    rw [UInt64.toNat_add]
    omega
  · next h =>
    have hmax : (UInt64.ofNat (UInt64.size - 1)).toNat = 2 ^ 64 - 1 := rfl
    rw [UInt64.size] at h
    rw [hmax]
    omega

lemma toNat_expiry_some (n : UInt64) : (expiry lib issuer sub caps s id (some n)).toNat =
    min (s.toNat + n.toNat) (2 ^ 64 - 1) :=
  toNat_saturatingAdd s n

lemma inRange_iff :
    InRange s ttl ↔ (expiry lib issuer sub caps s id ttl).toNat < 2 ^ 63 := by
  cases ttl with
  | none => exact iff_of_true trivial (show (4102444800 : UInt64).toNat < 2 ^ 63 by decide)
  | some n =>
    rw [toNat_expiry_some, InRange]
    omega

lemma unexpired_iff {t : UInt64} : Unexpired (imported lib issuer sub caps s id ttl) t ↔
    t.toInt64 < (expiry lib issuer sub caps s id ttl).toInt64 := by
  constructor
  · intro h
    have hmem := h ⟨[imported lib issuer sub caps s id ttl], List.nodup_singleton _⟩
      (List.mem_singleton_self _)
    exact (TokenTable.mem_tokenCandidates.mp hmem).2.2.2.2
  · exact fun hlt table hrow => TokenTable.mem_tokenCandidates.mpr ⟨hrow, rfl, rfl, rfl, hlt⟩

lemma expired_of_answer {signed : SignedToken} {claims : CapabilityToken}
    (hverify : verifySignedClaims lib signed = .ok claims) {localNodeid initiator : NodeId}
    {required : Cap} {t : UInt64} {tokenFind : TokenId → Except String (Option TokenRow)}
    (h : AnswersExpired lib signed localNodeid initiator required t tokenFind) :
    t.toInt64 - clockSkewSecs > claims.exp.toInt64 := by
  obtain ⟨exp, now, he⟩ := h
  by_contra hin
  simp only [verifyToken, hverify, validateClaims, if_neg hin] at he
  split_ifs at he <;> cases he

lemma lapsed_iff {t : UInt64} : Lapsed lib issuer sub caps s id ttl t ↔
    t.toInt64 - clockSkewSecs > (expiry lib issuer sub caps s id ttl).toInt64 := by
  have hverify := verifySignedClaims_signToken issuer sub caps ttl s id
  constructor
  · exact fun h => expired_of_answer hverify (h .msg fun _ => .ok none)
  · intro hgt required tokenFind
    have hgt' : t.toInt64 - clockSkewSecs > (signToken lib issuer sub caps ttl s id).1.exp.toInt64 :=
      hgt
    have hiss : (signToken lib issuer sub caps ttl s id).1.iss = nodeidOf lib issuer := rfl
    have hsub : (signToken lib issuer sub caps ttl s id).1.sub = sub := rfl
    refine ⟨(signToken lib issuer sub caps ttl s id).1.exp, t, ?_⟩
    simp only [granted, verifyToken, hverify, validateClaims, if_pos hgt', hiss, hsub, ne_eq,
      not_true_eq_false, if_false]

lemma selects_iff {t exp : UInt64} (ht : t.toNat < 2 ^ 62) (hexp : exp.toNat < 2 ^ 63) :
    t.toInt64 < exp.toInt64 ↔ t.toNat < exp.toNat := by
  rw [Signed.toInt64_lt_agrees]
  omega

lemma refuses_iff {t exp : UInt64} (ht : t.toNat < 2 ^ 62) (hexp : exp.toNat < 2 ^ 63) :
    t.toInt64 - clockSkewSecs > exp.toInt64 ↔ exp.toNat + 300 < t.toNat := by
  have hside : SameSide t exp := by
    rw [SameSide]
    split
    · omega
    · exact Or.inl hexp
  rw [← not_iff_not, sameSide_iff.mp hside]
  omega

lemma livesItsTtl_of_lt (hexp : (expiry lib issuer sub caps s id ttl).toNat < 2 ^ 63) :
    LivesItsTtl lib issuer sub caps s id ttl where
  held t ht _ hlt := unexpired_iff.mpr ((selects_iff ht hexp).mpr hlt)
  honoured t t' _ ht' _ hlt _ hle localNodeid initiator required tokenFind hanswer := by
    have hgt := expired_of_answer (verifySignedClaims_signToken issuer sub caps ttl s id) hanswer
    have hlate := (refuses_iff ht' hexp).mp hgt
    have hlt' : t.toNat < (expiry lib issuer sub caps s id ttl).toNat := hlt
    omega
  unselected t ht hle table iss sub' required answer hanswer heq := by
    subst heq
    have hlt := (selects_iff ht hexp).mp hanswer.spec.2.2.2.2.1
    exact absurd hle (Nat.not_le.mpr hlt)
  refused t ht hgt := lapsed_iff.mpr ((refuses_iff ht hexp).mpr hgt)
  longer n m httl hle t ht := by
    have hmin : (expiry lib issuer sub caps s id (some m)).toNat ≤
        (expiry lib issuer sub caps s id ttl).toNat := by
      subst httl
      have hle' : m.toNat ≤ n.toNat := hle
      rw [toNat_expiry_some, toNat_expiry_some]
      omega
    rw [unexpired_iff, unexpired_iff, lapsed_iff, lapsed_iff, selects_iff ht hexp,
      selects_iff ht (by omega), refuses_iff ht hexp, refuses_iff ht (by omega)]
    omega

theorem livesItsTtl_iff_inRange (hs : s.toNat < 2 ^ 62) :
    LivesItsTtl lib issuer sub caps s id ttl ↔ InRange s ttl := by
  rw [@inRange_iff lib issuer sub caps s id ttl]
  refine ⟨fun h => ?_, livesItsTtl_of_lt⟩
  by_contra hexp
  have hlt : s < expiry lib issuer sub caps s id ttl := by
    rw [UInt64.lt_iff_toNat_lt]
    omega
  have hsel := unexpired_iff.mp (h.held s hs (UInt64.le_refl s) hlt)
  rw [Signed.toInt64_lt] at hsel
  rw [UInt64.lt_iff_toNat_lt] at hlt
  omega

theorem livesItsTtl_iff_inRange_hour :
    LivesItsTtl Sample.libraries (Sample.node 1) (Sample.node 2) [.msg] 1000 (Sample.tokenId 7)
      (some 3600) ↔ InRange 1000 (some 3600) :=
  livesItsTtl_iff_inRange (by decide)

theorem longest_ttl_is_expired_at_once :
    ¬ LivesItsTtl Sample.libraries (Sample.node 1) (Sample.node 2) [.msg] 1000 (Sample.tokenId 7)
      (some 18446744073709551615) ∧
    ¬ Unexpired (imported Sample.libraries (Sample.node 1) (Sample.node 2) [.msg] 1000
      (Sample.tokenId 7) (some 18446744073709551615)) 1000 ∧
    Lapsed Sample.libraries (Sample.node 1) (Sample.node 2) [.msg] 1000 (Sample.tokenId 7)
      (some 18446744073709551615) 1000 := by
  have hun : ¬ Unexpired (imported Sample.libraries (Sample.node 1) (Sample.node 2) [.msg] 1000
      (Sample.tokenId 7) (some 18446744073709551615)) 1000 :=
    mt unexpired_iff.mp (by decide +kernel)
  exact ⟨fun h => hun (h.held 1000 (by decide) (by decide) (by decide +kernel)), hun,
    lapsed_iff.mpr (by decide +kernel)⟩

end WalkieTalkie.Daemon.Expiry
