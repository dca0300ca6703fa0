import WalkieTalkie.Daemon.Trust
import WalkieTalkie.Sample

/-! How long a revocation lasts. The flag sits in the one row of the token's id, and importing any
token with that id later writes the row again. -/

namespace WalkieTalkie.Daemon.Revocation

open Proto Store Auth Lib.Runs Trust

variable {lib : Libraries} {secret : lib.ed.SecretKey}

def Revoked (id : TokenId) (st : State) : Prop :=
  ∃ row ∈ st.tokens.rows, row.id = id ∧ row.revoked = true

def FreshGrant (id : TokenId) (c : Call) : Prop :=
  ∀ peer caps ttlSecs, c.request = .tokenGrant peer caps ttlSecs → c.freshId ≠ id

def NoReimport (lib : Libraries) (secret : lib.ed.SecretKey) (id : TokenId) (st : State)
    (c : Call) : Prop :=
  ∀ raw claims signed, c.request = .tokenImport raw →
    admitImport lib secret st raw = .ok (claims, signed) → claims.id ≠ id

lemma written_id_ne {id : TokenId} {st : State} {c : Call} {claims : CapabilityToken}
    {signed : SignedToken} (hf : FreshGrant id c) (hn : NoReimport lib secret id st c)
    (h : written lib secret st c = some (claims, signed)) : claims.id ≠ id := by
  rw [written] at h
  split at h
  · next peer caps ttlSecs hc =>
    obtain ⟨row, _, hr⟩ := Option.map_eq_some_iff.mp h
    have hid : claims.id = c.freshId := congrArg (fun p => p.1.id) hr.symm
    rw [hid]
    exact hf _ _ _ hc
  · next raw hc =>
    cases ha : admitImport lib secret st raw with
    | error e => simp [ha, Except.toOption] at h
    | ok p =>
      obtain rfl : p = (claims, signed) := by simpa [ha, Except.toOption] using h
      exact hn raw claims signed hc ha
  · cases h

lemma revoked_step {id : TokenId} {st : State} {c : Call} (h : Revoked id st)
    (hf : FreshGrant id c) (hn : NoReimport lib secret id st c) :
    Revoked id (dispatch lib secret st c).1 := by
  obtain ⟨row, hrow, hid, hrev⟩ := h
  rcases tokens_cases lib secret st c with
    ⟨ht, _⟩ | ⟨other, _, ht⟩ | ⟨claims, signed, hw, ht⟩
  · exact ⟨row, ht ▸ hrow, hid, hrev⟩
  · refine ⟨_, ht ▸ TokenTable.mem_tokenRevoke.mpr ⟨row, hrow, rfl⟩, ?_⟩
    split <;> exact ⟨hid, by simp [hrev]⟩
  · have hne : row.id ≠ claims.id := fun he => written_id_ne hf hn hw (he ▸ hid)
    exact ⟨row, ht ▸ TokenTable.mem_tokenInsert.mpr (Or.inl ⟨hrow, hne⟩), hid, hrev⟩

lemma revoked_of_ok {id : TokenId} {st : State} {c : Call} (hc : c.request = .tokenRevoke id)
    (hok : (dispatch lib secret st c).2 = [.ok]) : Revoked id (dispatch lib secret st c).1 := by
  simp only [dispatch, hc] at hok ⊢
  have hn : (st.tokens.tokenRevoke id).2 ≠ 0 := by
    intro h0
    simp [h0] at hok
  obtain ⟨row, hrow⟩ := List.exists_mem_of_length_pos (Nat.pos_of_ne_zero hn)
  obtain ⟨hmem, hid⟩ : row ∈ st.tokens.rows ∧ row.id = id := by simpa using List.mem_filter.mp hrow
  exact ⟨_, TokenTable.mem_tokenRevoke.mpr ⟨row, hmem, rfl⟩, by simp [hid]⟩

lemma verifyToken_id_ne {id : TokenId} {st : State} {signed : SignedToken}
    {localNodeid initiator : NodeId} {requiredCap : Cap} {now : UInt64} {claims : CapabilityToken}
    (h : Revoked id st)
    (hv : verifyToken lib signed localNodeid initiator requiredCap now
      (fun id => .ok (st.tokens.tokenFind id)) = .ok claims) : claims.id ≠ id := by
  rintro rfl
  obtain ⟨row, hrow, hid, hrev⟩ := h
  obtain ⟨_, _, _, hval⟩ := verifyToken_ok.mp hv
  have hfind : st.tokens.tokenFind claims.id = some row := Lib.Table.find_eq_some.mpr ⟨hrow, hid⟩
  have hnot := (validateClaims_ok.mp hval).2.1 row (by rw [hfind])
  simp [hrev] at hnot

theorem revoked_until_reimported {id : TokenId} {st st' : State} {revoke : Call}
    {later : List Call} (hreq : revoke.request = .tokenRevoke id)
    (hok : (dispatch lib secret st revoke).2 = [.ok])
    (hlater : Run (Guarded (fun st c => FreshGrant id c ∧ NoReimport lib secret id st c)
      (Serves lib secret)) (dispatch lib secret st revoke).1 later st')
    (signed : SignedToken) (initiator : NodeId) (requiredCap : Cap) (now : UInt64)
    (claims : CapabilityToken)
    (hv : verifyToken lib signed (nodeidOf lib secret) initiator requiredCap now
      (fun id => .ok (st'.tokens.tokenFind id)) = .ok claims) : claims.id ≠ id := by
  have hkeep : Revoked id st' := by
    refine hlater.invariant (I := Revoked id) ?_ (revoked_of_ok hreq hok)
    rintro s c t hs ⟨⟨hf, hn⟩, rfl⟩
    exact revoked_step hs hf hn
  exact verifyToken_id_ne hkeep hv

def call (r : Request) (id : TokenId) : Call := ⟨r, 1000, 1000, id⟩

def granted : State :=
  serveAll Sample.libraries (Sample.node 1) initial
    [call (.peerAdd (Sample.node 2) "alice" none) (Sample.tokenId 0),
      call (.peerAdd (Sample.node 3) "mallory" none) (Sample.tokenId 0),
      call (.tokenGrant (.name "alice") [.msg] none) (Sample.tokenId 7)]

def grantedToken : CapabilityToken × SignedToken :=
  signToken Sample.libraries (Sample.node 1) (Sample.node 2) [.msg] none 1000 (Sample.tokenId 7)

def revokeCall : Call := call (.tokenRevoke (Sample.tokenId 7)) (Sample.tokenId 0)

def clashingToken : CapabilityToken × SignedToken :=
  signToken Sample.libraries (Sample.node 3) (Sample.node 1) [.msg] none 1000 (Sample.tokenId 7)

def importCall : Call :=
  call (.tokenImport (Sample.libraries.signed.encode clashingToken.2)) (Sample.tokenId 0)

def otherToken : CapabilityToken × SignedToken :=
  signToken Sample.libraries (Sample.node 3) (Sample.node 1) [.msg] none 1000 (Sample.tokenId 9)

def laterToken : CapabilityToken × SignedToken :=
  signToken Sample.libraries (Sample.node 1) (Sample.node 2) [.msg] none 1000 (Sample.tokenId 8)

def laterCalls : List Call :=
  [call (.tokenImport (Sample.libraries.signed.encode otherToken.2)) (Sample.tokenId 0),
    call (.tokenGrant (.name "alice") [.msg] none) (Sample.tokenId 8)]

lemma laterCalls_run :
    Run (Guarded (fun st c => FreshGrant (Sample.tokenId 7) c ∧
        NoReimport Sample.libraries (Sample.node 1) (Sample.tokenId 7) st c)
      (Serves Sample.libraries (Sample.node 1)))
      (dispatch Sample.libraries (Sample.node 1) granted revokeCall).1 laterCalls
      (serveAll Sample.libraries (Sample.node 1) granted (revokeCall :: laterCalls)) := by
  have hpass : admitImport Sample.libraries (Sample.node 1)
      (dispatch Sample.libraries (Sample.node 1) granted revokeCall).1
      (Sample.libraries.signed.encode otherToken.2) = .ok otherToken := by decide +kernel
  refine .cons ⟨⟨?_, ?_⟩, rfl⟩ (.cons ⟨⟨?_, ?_⟩, rfl⟩ .nil)
  · intro peer caps ttlSecs h
    cases h
  · intro raw claims signed h ha
    obtain rfl := Request.tokenImport.inj h
    obtain rfl : otherToken.1 = claims :=
      congrArg Prod.fst (Except.ok.inj (hpass.symm.trans ha))
    decide
  · intro peer caps ttlSecs _
    decide
  · intro raw claims signed h
    cases h

theorem revoked_until_reimported_other_traffic : laterToken.1.id ≠ Sample.tokenId 7 :=
  revoked_until_reimported rfl (by decide +kernel) laterCalls_run laterToken.2 (Sample.node 2) .msg
    1000 laterToken.1 (by decide +kernel)

theorem revoked_token_verifies_again :
    (dispatch Sample.libraries (Sample.node 1) granted revokeCall).2 = [.ok] ∧
    FreshGrant (Sample.tokenId 7) importCall ∧
    ∃ st, Run (Serves Sample.libraries (Sample.node 1))
        (dispatch Sample.libraries (Sample.node 1) granted revokeCall).1 [importCall] st ∧
      verifyToken Sample.libraries grantedToken.2 (Sample.node 1) (Sample.node 2) .msg 1000
        (fun id => .ok (st.tokens.tokenFind id)) = .ok grantedToken.1 ∧
      grantedToken.1.id = Sample.tokenId 7 := by
  refine ⟨by decide +kernel, ?_, _, serveAll_run _ _ _ _, by decide +kernel, rfl⟩
  intro peer caps ttlSecs h
  cases h

lemma reimport_clears {st : State} {c : Call} {raw : Bytes} {claims : CapabilityToken}
    {signed : SignedToken} (hc : c.request = .tokenImport raw)
    (ha : admitImport lib secret st raw = .ok (claims, signed)) :
    ¬ Revoked claims.id (dispatch lib secret st c).1 := by
  rintro ⟨row, hrow, hid, hrev⟩
  simp only [dispatch, hc, ha] at hrow
  rcases TokenTable.mem_tokenInsert.mp hrow with ⟨_, hne⟩ | ⟨o, _, _, rfl⟩ | ⟨rfl, _⟩
  · exact hne hid
  · simp [TokenTable.mergeToken, tokenRow] at hrev
  · simp [tokenRow] at hrev

end WalkieTalkie.Daemon.Revocation
