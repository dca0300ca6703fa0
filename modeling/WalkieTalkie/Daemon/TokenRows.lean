import WalkieTalkie.Daemon.Trust
import WalkieTalkie.Sample

/-! What the columns of a token row say about its raw bytes. A write under a known id replaces
the bytes and keeps the columns, so the two agree as long as such a write repeats the claims. -/

namespace WalkieTalkie.Daemon.TokenRows

open Proto Store Auth Lib.Runs Trust

variable {lib : Libraries} {secret : lib.ed.SecretKey}

def rowClaims (row : TokenRow) : CapabilityToken :=
  ⟨row.iss, row.sub, row.exp, row.caps, row.id⟩

def Carries (lib : Libraries) (row : TokenRow) : Prop :=
  ∃ signed, lib.signed.decode row.raw = .ok signed ∧
    verifySignedClaims lib signed = .ok (rowClaims row)

def AllCarry (lib : Libraries) (st : State) : Prop :=
  ∀ row ∈ st.tokens.rows, Carries lib row

def SameClaims (lib : Libraries) (secret : lib.ed.SecretKey) (st : State) (c : Call) : Prop :=
  ∀ claims signed, written lib secret st c = some (claims, signed) →
    ∀ row ∈ st.tokens.rows, row.id = claims.id → rowClaims row = claims

lemma carries_tokenRow {claims : CapabilityToken} {signed : SignedToken}
    (h : verifySignedClaims lib signed = .ok claims) : Carries lib (tokenRow lib claims signed) :=
  ⟨signed, lib.signed.decode_encode signed, h⟩

lemma carries_merge {row : TokenRow} {claims : CapabilityToken} {signed : SignedToken}
    (h : verifySignedClaims lib signed = .ok claims) :
    Carries lib (TokenTable.mergeToken row (tokenRow lib claims signed)) ↔
      rowClaims row = claims := by
  constructor
  · rintro ⟨s, hd, hv⟩
    obtain rfl : signed = s := Except.ok.inj ((lib.signed.decode_encode signed).symm.trans hd)
    exact Except.ok.inj (hv.symm.trans h)
  · rintro rfl
    exact ⟨signed, lib.signed.decode_encode signed, h⟩

lemma carries_revoked {row : TokenRow} (h : Carries lib row) :
    Carries lib { row with revoked := true } :=
  h

lemma allCarry_step {st : State} (h : AllCarry lib st) (c : Call) :
    AllCarry lib (dispatch lib secret st c).1 ↔ SameClaims lib secret st c := by
  rcases tokens_cases lib secret st c with
    ⟨ht, hw⟩ | ⟨id, hc, ht⟩ | ⟨claims, signed, hw, ht⟩
  · have hall : AllCarry lib (dispatch lib secret st c).1 := by
      rw [AllCarry, ht]
      exact h
    exact ⟨fun _ => by simp [SameClaims, hw], fun _ => hall⟩
  · have hw : written lib secret st c = none := by simp [written, hc]
    refine ⟨fun _ => by simp [SameClaims, hw], fun _ row hrow => ?_⟩
    obtain ⟨o, ho, rfl⟩ := TokenTable.mem_tokenRevoke.mp (ht ▸ hrow)
    split
    · exact carries_revoked (h o ho)
    · exact h o ho
  · have hv := written_verifies hw
    constructor
    · intro hall claims' signed' hw' row hrow hid
      obtain ⟨rfl, rfl⟩ : claims = claims' ∧ signed = signed' := by simpa [hw] using hw'
      refine (carries_merge hv).mp (hall _ (ht ▸ TokenTable.mem_tokenInsert.mpr ?_))
      exact Or.inr (Or.inl ⟨row, hrow, hid, rfl⟩)
    · intro hsame row hrow
      rcases TokenTable.mem_tokenInsert.mp (ht ▸ hrow) with ⟨ho, _⟩ | ⟨o, ho, hid, rfl⟩ | ⟨rfl, _⟩
      · exact h row ho
      · exact (carries_merge hv).mpr (hsame claims signed hw o ho hid)
      · exact carries_tokenRow hv

lemma allCarry_run {calls : List Call} {st : State}
    (h : Run (Guarded (SameClaims lib secret) (Serves lib secret)) initial calls st) :
    AllCarry lib st := by
  refine h.invariant (I := AllCarry lib) ?_ (by simp [AllCarry, initial])
  rintro s c t hs ⟨hc, rfl⟩
  exact (allCarry_step hs c).mpr hc

lemma imported_candidate {st : State} {c : Call} {raw : Bytes} {claims : CapabilityToken}
    {signed : SignedToken} (hc : c.request = .tokenImport raw)
    (ha : admitImport lib secret st raw = .ok (claims, signed))
    (hs : SameClaims lib secret st c) {now : UInt64} (hnow : now.toInt64 < claims.exp.toInt64) :
    ∃ row ∈ (dispatch lib secret st c).1.tokens.tokenCandidates claims.iss claims.sub now,
      row.raw = lib.signed.encode signed ∧ row.caps = claims.caps := by
  have hw : written lib secret st c = some (claims, signed) := by
    simp [written, hc, ha, Except.toOption]
  have ht : (dispatch lib secret st c).1.tokens =
      st.tokens.tokenInsert (tokenRow lib claims signed) := by
    simp [dispatch, hc, ha]
  by_cases hex : ∃ o ∈ st.tokens.rows, o.id = claims.id
  · obtain ⟨o, ho, hid⟩ := hex
    obtain rfl := hs claims signed hw o ho hid
    refine ⟨TokenTable.mergeToken o (tokenRow lib (rowClaims o) signed), ?_, rfl, rfl⟩
    rw [ht, TokenTable.mem_tokenCandidates, TokenTable.mem_tokenInsert]
    exact ⟨Or.inr (Or.inl ⟨o, ho, hid, rfl⟩), rfl, rfl, rfl, hnow⟩
  · refine ⟨tokenRow lib claims signed, ?_, rfl, rfl⟩
    rw [ht, TokenTable.mem_tokenCandidates, TokenTable.mem_tokenInsert]
    exact ⟨Or.inr (Or.inr ⟨rfl, fun o ho hid => hex ⟨o, ho, hid⟩⟩), rfl, rfl, rfl, hnow⟩

theorem token_rows_carry_their_claims {calls : List Call} {st : State}
    (hrun : Run (Guarded (SameClaims lib secret) (Serves lib secret)) initial calls st) :
    (∀ row ∈ st.tokens.rows, Carries lib row) ∧
    (∀ iss sub cap now row, st.tokens.FindTokenWithCap iss sub cap now (some row) →
      ∃ signed claims, lib.signed.decode row.raw = .ok signed ∧
        verifySignedClaims lib signed = .ok claims ∧
        claims.iss = iss ∧ claims.sub = sub ∧ cap ∈ claims.caps) ∧
    (∀ c raw claims signed, c.request = .tokenImport raw →
      admitImport lib secret st raw = .ok (claims, signed) → SameClaims lib secret st c →
      ∀ cap ∈ claims.caps, ∀ now : UInt64, now.toInt64 < claims.exp.toInt64 →
        (∃ row ∈ (dispatch lib secret st c).1.tokens.tokenCandidates claims.iss claims.sub now,
          row.raw = lib.signed.encode signed ∧ cap ∈ row.caps) ∧
        ∀ answer, (dispatch lib secret st c).1.tokens.FindTokenWithCap claims.iss claims.sub cap
          now answer → answer.isSome = true) := by
  have hall := allCarry_run hrun
  refine ⟨hall, ?_, ?_⟩
  · intro iss sub cap now row hf
    obtain ⟨hrow, hiss, hsub, _, _, hcap⟩ := hf.spec
    obtain ⟨signed, hd, hv⟩ := hall row hrow
    exact ⟨signed, rowClaims row, hd, hv, hiss, hsub, hcap⟩
  · intro c raw claims signed hc ha hs cap hcap now hnow
    obtain ⟨row, hrow, hraw, hcaps⟩ := imported_candidate hc ha hs hnow
    exact ⟨⟨row, hrow, hraw, hcaps ▸ hcap⟩, fun answer hf => hf.isSome hrow (hcaps ▸ hcap)⟩

def importCall (token : SignedToken) : Call :=
  ⟨.tokenImport (Sample.libraries.signed.encode token), 1000, 1000, Sample.tokenId 0⟩

def peerToken (b : UInt8) : CapabilityToken × SignedToken :=
  signToken Sample.libraries (Sample.node b) (Sample.node 1) [.msg] none 1000 (Sample.tokenId 7)

def introduced : List Call :=
  [⟨.peerAdd (Sample.node 2) "alice" none, 1000, 1000, Sample.tokenId 0⟩,
    ⟨.peerAdd (Sample.node 3) "mallory" none, 1000, 1000, Sample.tokenId 0⟩]

def serveSample (calls : List Call) : State :=
  serveAll Sample.libraries (Sample.node 1) initial calls

theorem clashing_import_mixes_row :
    ∃ st st' row, Run (Serves Sample.libraries (Sample.node 1)) initial
        (introduced ++ [importCall (peerToken 2).2]) st ∧
      dispatch Sample.libraries (Sample.node 1) st (importCall (peerToken 3).2) =
        (st', [.tokenListItem (claimsInfo (peerToken 3).1), .ok]) ∧
      st'.tokens.FindTokenWithCap (Sample.node 2) (Sample.node 1) .msg 1000 (some row) ∧
      Sample.libraries.signed.decode row.raw = .ok (peerToken 3).2 ∧
      verifySignedClaims Sample.libraries (peerToken 3).2 = .ok (peerToken 3).1 ∧
      (peerToken 3).1.iss ≠ Sample.node 2 ∧ ¬ Carries Sample.libraries row ∧
      st'.tokens.FindTokenWithCap (Sample.node 3) (Sample.node 1) .msg 1000 none := by
  have hfound : (serveSample (introduced ++ [importCall (peerToken 2).2,
      importCall (peerToken 3).2])).tokens.findTokenWithCap (Sample.node 2) (Sample.node 1) .msg
      1000 = some (TokenTable.mergeToken (tokenRow Sample.libraries (peerToken 2).1 (peerToken 2).2)
        (tokenRow Sample.libraries (peerToken 3).1 (peerToken 3).2)) := by decide +kernel
  have hlost : (serveSample (introduced ++ [importCall (peerToken 2).2,
      importCall (peerToken 3).2])).tokens.findTokenWithCap (Sample.node 3) (Sample.node 1) .msg
      1000 = none := by decide +kernel
  refine ⟨_, serveSample (introduced ++ [importCall (peerToken 2).2, importCall (peerToken 3).2]), _,
    serveAll_run _ _ _ _, Prod.ext rfl (by decide +kernel),
    hfound ▸ TokenTable.findTokenWithCap_answer _ _ _ _ _, by decide +kernel, by decide +kernel,
    by decide, ?_, hlost ▸ TokenTable.findTokenWithCap_answer _ _ _ _ _⟩
  rw [carries_merge (by decide +kernel)]
  decide

lemma introduced_run :
    Run (Guarded (SameClaims Sample.libraries (Sample.node 1))
      (Serves Sample.libraries (Sample.node 1))) initial
      (introduced ++ [importCall (peerToken 2).2])
      (serveSample (introduced ++ [importCall (peerToken 2).2])) := by
  refine .cons ⟨?_, rfl⟩ (.cons ⟨?_, rfl⟩ (.cons ⟨?_, rfl⟩ .nil))
  · intro claims signed h
    cases h
  · intro claims signed h
    cases h
  · intro claims signed _ row hrow
    cases hrow

theorem token_rows_carry_their_claims_import :
    ∃ row, (serveSample (introduced ++ [importCall (peerToken 2).2])).tokens.FindTokenWithCap
        (Sample.node 2) (Sample.node 1) .msg 1000 (some row) ∧
      ∃ signed claims, Sample.libraries.signed.decode row.raw = .ok signed ∧
        verifySignedClaims Sample.libraries signed = .ok claims ∧
        claims.iss = Sample.node 2 ∧ claims.sub = Sample.node 1 ∧ .msg ∈ claims.caps := by
  have hfound : (serveSample (introduced ++ [importCall (peerToken 2).2])).tokens.findTokenWithCap
      (Sample.node 2) (Sample.node 1) .msg 1000 =
      some (tokenRow Sample.libraries (peerToken 2).1 (peerToken 2).2) := by decide +kernel
  have hrow := hfound ▸ TokenTable.findTokenWithCap_answer
    (serveSample (introduced ++ [importCall (peerToken 2).2])).tokens (Sample.node 2)
    (Sample.node 1) .msg 1000
  exact ⟨_, hrow, (token_rows_carry_their_claims introduced_run).2.1 _ _ _ _ _ hrow⟩

end WalkieTalkie.Daemon.TokenRows
