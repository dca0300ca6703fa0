import WalkieTalkie.Daemon.TokenRows
import WalkieTalkie.Daemon.Revocation

/-! A holder and an issuer of tokens, each with its own tables and neither told of the other's
revocations. The holder presents the unexpired token of latest expiry that it has not itself
revoked, and the issuer checks it against its own table. -/

namespace WalkieTalkie.Daemon.Selection

open Proto Store Auth Lib.Runs Trust TokenRows Revocation

structure Pair where
  holder : State
  issuer : State

inductive PairCall
  | atHolder (c : Call)
  | atIssuer (c : Call)

def start : Pair := ⟨initial, initial⟩

variable (lib : Libraries) (holderKey issuerKey : lib.ed.SecretKey)

def servePair (p : Pair) : PairCall → Pair
  | .atHolder c => { p with holder := (dispatch lib holderKey p.holder c).1 }
  | .atIssuer c => { p with issuer := (dispatch lib issuerKey p.issuer c).1 }

def PairServes (p : Pair) (c : PairCall) (p' : Pair) : Prop :=
  servePair lib holderKey issuerKey p c = p'

def HolderKeepsClaims (p : Pair) : PairCall → Prop
  | .atHolder c => SameClaims lib holderKey p.holder c ∧ ∀ id, c.request ≠ .tokenRevoke id
  | .atIssuer _ => True

def issuerAccepts (p : Pair) (now : UInt64) (raw : Bytes) : Bool :=
  match lib.signed.decode raw with
  | .error _ => false
  | .ok signed =>
    (verifyToken lib signed (nodeidOf lib issuerKey) (nodeidOf lib holderKey) .msg now
      fun id => .ok (p.issuer.tokens.tokenFind id)).isOk

def Unexpired (p : Pair) (now : UInt64) (row : TokenRow) : Prop :=
  row ∈ p.holder.tokens.rows ∧ row.iss = nodeidOf lib issuerKey ∧
    row.sub = nodeidOf lib holderKey ∧ now.toInt64 < row.exp.toInt64 ∧ .msg ∈ row.caps

def Selects (p : Pair) (now : UInt64) (answer : Option TokenRow) : Prop :=
  p.holder.tokens.FindTokenWithCap (nodeidOf lib issuerKey) (nodeidOf lib holderKey) .msg now answer

variable {lib holderKey issuerKey}

def NoneRevoked (st : State) : Prop :=
  ∀ row ∈ st.tokens.rows, row.revoked = false

lemma noneRevoked_step {st : State} {c : Call} (h : NoneRevoked st)
    (hc : ∀ id, c.request ≠ .tokenRevoke id) :
    NoneRevoked (dispatch lib holderKey st c).1 := by
  intro row hrow
  rcases tokens_cases lib holderKey st c with ⟨ht, _⟩ | ⟨id, hid, _⟩ | ⟨claims, signed, _, ht⟩
  · exact h row (ht ▸ hrow)
  · exact (hc id hid).elim
  · rcases TokenTable.mem_tokenInsert.mp (ht ▸ hrow) with ⟨ho, _⟩ | ⟨o, _, _, rfl⟩ | ⟨rfl, _⟩
    · exact h row ho
    · rfl
    · rfl

lemma holder_run {calls : List PairCall} {p : Pair}
    (h : Run (Guarded (HolderKeepsClaims lib holderKey) (PairServes lib holderKey issuerKey)) start
      calls p) : AllCarry lib p.holder ∧ NoneRevoked p.holder := by
  refine h.invariant (I := fun p => AllCarry lib p.holder ∧ NoneRevoked p.holder) ?_ ?_
  · rintro s c t ⟨hcarry, hnone⟩ ⟨hc, rfl⟩
    cases c with
    | atHolder c => exact ⟨(allCarry_step hcarry c).mpr hc.1, noneRevoked_step hnone hc.2⟩
    | atIssuer c => exact ⟨hcarry, hnone⟩
  · exact ⟨by simp [AllCarry, start, initial], by simp [NoneRevoked, start, initial]⟩

lemma tokenFind_unrevoked {st : State} {id : TokenId} :
    (∀ row, (.ok (st.tokens.tokenFind id) : Except String (Option TokenRow)) = .ok (some row) →
      row.revoked = false) ↔ ¬ Revoked id st := by
  constructor
  · rintro h ⟨row, hrow, hid, hrev⟩
    have hfind : st.tokens.tokenFind id = some row := Lib.Table.find_eq_some.mpr ⟨hrow, hid⟩
    have hno := h row (congrArg _ hfind)
    simp [hrev] at hno
  · intro h row hfind
    obtain ⟨hrow, hid⟩ := Lib.Table.find_eq_some.mp (Except.ok.inj hfind)
    by_contra hrev
    exact h ⟨row, hrow, hid, by simpa using hrev⟩

lemma issuerAccepts_iff {p : Pair} {now : UInt64} {row : TokenRow} (hcarry : Carries lib row)
    (hrow : Unexpired lib holderKey issuerKey p now row) :
    issuerAccepts lib holderKey issuerKey p now row.raw = true ↔
      ¬ now.toInt64 - clockSkewSecs > row.exp.toInt64 ∧ ¬ Revoked row.id p.issuer := by
  obtain ⟨signed, hdecode, hsigned⟩ := hcarry
  obtain ⟨_, hiss, hsub, _, hcap⟩ := hrow
  have hval := @validateClaims_ok (rowClaims row) .msg now
    (.ok (p.issuer.tokens.tokenFind (rowClaims row).id))
  rw [tokenFind_unrevoked] at hval
  simp only [issuerAccepts, hdecode]
  constructor
  · intro hok
    cases hv : verifyToken lib signed (nodeidOf lib issuerKey) (nodeidOf lib holderKey) .msg now
        fun id => .ok (p.issuer.tokens.tokenFind id) with
    | error e => simp [hv, Except.isOk, Except.toBool] at hok
    | ok claims =>
      obtain ⟨hclaims, _, _, hvalid⟩ := verifyToken_ok.mp hv
      obtain rfl := Except.ok.inj (hsigned.symm.trans hclaims)
      obtain ⟨hskew, hrev, _⟩ := hval.mp hvalid
      exact ⟨hskew, hrev⟩
  · rintro ⟨hskew, hrev⟩
    have hv : verifyToken lib signed (nodeidOf lib issuerKey) (nodeidOf lib holderKey) .msg now
        (fun id => .ok (p.issuer.tokens.tokenFind id)) = .ok (rowClaims row) :=
      verifyToken_ok.mpr ⟨hsigned, hiss, hsub, hval.mpr ⟨hskew, hrev, hcap⟩⟩
    rw [hv]
    rfl

theorem selected_token_accepted_unless_revoked {calls : List PairCall} {p : Pair}
    (hrun : Run (Guarded (HolderKeepsClaims lib holderKey) (PairServes lib holderKey issuerKey))
      start calls p)
    {now : UInt64} {usable : TokenRow} (husable : Unexpired lib holderKey issuerKey p now usable)
    (haccepted : issuerAccepts lib holderKey issuerKey p now usable.raw = true)
    {answer : Option TokenRow} (hselects : Selects lib holderKey issuerKey p now answer) :
    ∃ row, answer = some row ∧ Unexpired lib holderKey issuerKey p now row ∧
      (∀ other, Unexpired lib holderKey issuerKey p now other →
        other.exp.toInt64 ≤ row.exp.toInt64) ∧
      (issuerAccepts lib holderKey issuerKey p now row.raw = true ↔ ¬ Revoked row.id p.issuer) ∧
      ((∀ other, Unexpired lib holderKey issuerKey p now other → ¬ Revoked other.id p.issuer) →
        issuerAccepts lib holderKey issuerKey p now row.raw = true) := by
  obtain ⟨hcarry, hnone⟩ := holder_run hrun
  have hcandidate : ∀ other, Unexpired lib holderKey issuerKey p now other →
      other ∈ p.holder.tokens.tokenCandidates (nodeidOf lib issuerKey) (nodeidOf lib holderKey)
        now := by
    rintro other ⟨hmem, hiss, hsub, hexp, _⟩
    exact TokenTable.mem_tokenCandidates.mpr ⟨hmem, hiss, hsub, hnone other hmem, hexp⟩
  have hsome := hselects.isSome (hcandidate usable husable) husable.2.2.2.2
  obtain ⟨row, rfl⟩ := Option.isSome_iff_exists.mp hsome
  obtain ⟨hmem, hiss, hsub, _, hexp, hcap⟩ := hselects.spec
  have hrow : Unexpired lib holderKey issuerKey p now row := ⟨hmem, hiss, hsub, hexp, hcap⟩
  have hlatest : ∀ other, Unexpired lib holderKey issuerKey p now other →
      other.exp.toInt64 ≤ row.exp.toInt64 := by
    intro other hother
    obtain ⟨rows, hordered, hfirst⟩ := hselects
    rcases hordered.find_first hfirst.symm (hcandidate other hother)
      (by simpa using hother.2.2.2.2) with rfl | hle
    · exact Int64.le_refl _
    · exact hle
  have hskew : ¬ now.toInt64 - clockSkewSecs > row.exp.toInt64 := by
    intro hgt
    have hok := ((issuerAccepts_iff (hcarry usable husable.1) husable).mp haccepted).1
    exact hok (Int64.lt_of_le_of_lt (hlatest usable husable) hgt)
  have hiff : issuerAccepts lib holderKey issuerKey p now row.raw = true ↔
      ¬ Revoked row.id p.issuer := by
    rw [issuerAccepts_iff (hcarry row hmem) hrow]
    exact and_iff_right hskew
  exact ⟨row, rfl, hrow, hlatest, hiff, fun hall => hiff.mpr (hall row hrow)⟩

lemma pair_run {calls : List PairCall} (p : Pair) : Run (PairServes lib holderKey issuerKey) p calls
    (calls.foldl (servePair lib holderKey issuerKey) p) := by
  induction calls generalizing p with
  | nil => exact .nil
  | cons c calls ih => exact .cons rfl (ih _)

def shortToken : CapabilityToken × SignedToken :=
  signToken Sample.libraries (Sample.node 2) (Sample.node 1) [.msg] (some 5000) 1000
    (Sample.tokenId 7)

def longToken : CapabilityToken × SignedToken :=
  signToken Sample.libraries (Sample.node 2) (Sample.node 1) [.msg] none 1000 (Sample.tokenId 8)

def grants : List PairCall :=
  [.atIssuer (call (.peerAdd (Sample.node 1) "alice" none) (Sample.tokenId 0)),
    .atIssuer (call (.tokenGrant (.name "alice") [.msg] (some 5000)) (Sample.tokenId 7)),
    .atIssuer (call (.tokenGrant (.name "alice") [.msg] none) (Sample.tokenId 8)),
    .atHolder (call (.peerAdd (Sample.node 2) "bob" none) (Sample.tokenId 0)),
    .atHolder (TokenRows.importCall shortToken.2),
    .atHolder (TokenRows.importCall longToken.2)]

def revokes (b : UInt8) : List PairCall :=
  [.atIssuer (call (.tokenRevoke (Sample.tokenId b)) (Sample.tokenId 0))]

def pairAfter (b : UInt8) : Pair :=
  (grants ++ revokes b).foldl (servePair Sample.libraries (Sample.node 1) (Sample.node 2)) start

def shortRow : TokenRow := tokenRow Sample.libraries shortToken.1 shortToken.2

def longRow : TokenRow := tokenRow Sample.libraries longToken.1 longToken.2

theorem revoked_latest_token_shadows_usable_one :
    ∃ p, Run (PairServes Sample.libraries (Sample.node 1) (Sample.node 2)) start
        (grants ++ revokes 8) p ∧
      Unexpired Sample.libraries (Sample.node 1) (Sample.node 2) p 1000 shortRow ∧
      issuerAccepts Sample.libraries (Sample.node 1) (Sample.node 2) p 1000 shortRow.raw = true ∧
      Selects Sample.libraries (Sample.node 1) (Sample.node 2) p 1000 (some longRow) ∧
      issuerAccepts Sample.libraries (Sample.node 1) (Sample.node 2) p 1000 longRow.raw =
        false := by
  have hfound : (pairAfter 8).holder.tokens.findTokenWithCap (Sample.node 2) (Sample.node 1) .msg
      1000 = some longRow := by decide +kernel
  refine ⟨pairAfter 8, pair_run start, ?_, by decide +kernel, ?_, by decide +kernel⟩
  · exact ⟨by decide +kernel, rfl, rfl, by decide +kernel, by decide +kernel⟩
  · exact hfound ▸ TokenTable.findTokenWithCap_answer _ _ _ _ _

lemma grants_run :
    Run (Guarded (HolderKeepsClaims Sample.libraries (Sample.node 1))
      (PairServes Sample.libraries (Sample.node 1) (Sample.node 2))) start (grants ++ revokes 7)
      (pairAfter 7) := by
  refine .cons ⟨trivial, rfl⟩ (.cons ⟨trivial, rfl⟩ (.cons ⟨trivial, rfl⟩ (.cons ⟨⟨?_, ?_⟩, rfl⟩
    (.cons ⟨⟨?_, ?_⟩, rfl⟩ (.cons ⟨⟨?_, ?_⟩, rfl⟩ (.cons ⟨trivial, rfl⟩ .nil))))))
  · intro claims signed h
    cases h
  · intro id h
    cases h
  · intro claims signed _ row hrow
    cases hrow
  · intro id h
    cases h
  · intro claims signed hw row hrow hid
    have hwritten : written Sample.libraries (Sample.node 1)
        ((grants.take 5).foldl (servePair Sample.libraries (Sample.node 1) (Sample.node 2))
          start).holder (TokenRows.importCall longToken.2) = some longToken := by decide +kernel
    have hrows : ((grants.take 5).foldl (servePair Sample.libraries (Sample.node 1)
        (Sample.node 2)) start).holder.tokens.rows = [shortRow] := by decide +kernel
    obtain rfl := List.mem_singleton.mp (hrows ▸ hrow)
    obtain rfl : longToken.1 = claims :=
      congrArg Prod.fst (Option.some.inj (hwritten.symm.trans hw))
    exact absurd hid (by decide)
  · intro id h
    cases h

theorem selected_token_accepted_unless_revoked_long :
    issuerAccepts Sample.libraries (Sample.node 1) (Sample.node 2) (pairAfter 7) 1000 longRow.raw =
      true := by
  have hlong : Unexpired Sample.libraries (Sample.node 1) (Sample.node 2) (pairAfter 7) 1000
      longRow := ⟨by decide +kernel, rfl, rfl, by decide +kernel, by decide +kernel⟩
  have hfound : (pairAfter 7).holder.tokens.findTokenWithCap (Sample.node 2) (Sample.node 1) .msg
      1000 = some longRow := by decide +kernel
  have hselects : Selects Sample.libraries (Sample.node 1) (Sample.node 2) (pairAfter 7) 1000
      (some longRow) := hfound ▸ TokenTable.findTokenWithCap_answer _ _ _ _ _
  obtain ⟨row, hrow, _, _, haccepts, _⟩ := selected_token_accepted_unless_revoked grants_run hlong
    (by decide +kernel) hselects
  obtain rfl := Option.some.inj hrow
  refine haccepts.mpr ?_
  rintro ⟨row, hrow, hid, hrev⟩
  have hnone : ∀ row ∈ (pairAfter 7).issuer.tokens.rows, row.id = longRow.id →
      row.revoked = false := by decide +kernel
  simp [hnone row hrow hid] at hrev

end WalkieTalkie.Daemon.Selection
