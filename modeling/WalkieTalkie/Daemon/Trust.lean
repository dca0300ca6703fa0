import WalkieTalkie.Auth
import WalkieTalkie.Lib.Runs

/-! The requests of the IPC server that read or write the peers and the tokens. -/

namespace WalkieTalkie.Daemon.Trust

open Proto Store Auth Lib.Runs

structure State where
  peers : PeerTable
  tokens : TokenTable

def initial : State := ⟨PeerTable.empty, Lib.Table.empty⟩

inductive Request
  | peerAdd (nodeid : NodeId) (name : String) (addrBlob : Option Bytes)
  | peerRm (selector : PeerSelector)
  | tokenGrant (peer : PeerSelector) (caps : List Cap) (ttlSecs : Option UInt64)
  | tokenImport (raw : Bytes)
  | tokenList
  | tokenRevoke (id : TokenId)
deriving DecidableEq

inductive Event
  | ok
  | err (e : IpcError)
  | tokenIssued (raw : Bytes) (info : TokenInfo)
  | tokenListItem (info : TokenInfo)
  | tokenListEnd
deriving DecidableEq

/-- A request with the clock readings and the random bytes its handler draws. -/
structure Call where
  request : Request
  nowMs : UInt64
  nowSecs : UInt64
  freshId : TokenId

def selToBytes : PeerSelector → PeerSelectorBytes
  | .name n => .name n
  | .nodeId n => .nodeId n

def claimsInfo (claims : CapabilityToken) : TokenInfo :=
  ⟨claims.id, claims.iss, claims.sub, claims.exp, claims.caps, false⟩

def rowInfo (r : TokenRow) : TokenInfo :=
  ⟨r.id, r.iss, r.sub, r.exp, r.caps, r.revoked⟩

variable (lib : Libraries) (secret : lib.ed.SecretKey)

def admitImport (st : State) (raw : Bytes) : Except IpcError (CapabilityToken × SignedToken) :=
  match lib.signed.decode raw with
  | .error e => .error ⟨.badRequest, s!"decode signed token: {e}"⟩
  | .ok signed =>
    match verifySignedClaims lib signed with
    | .error e => .error ⟨.unauthorized, s!"verify token signature: {e.display}"⟩
    | .ok claims =>
      if claims.sub ≠ nodeidOf lib secret then
        .error ⟨.badRequest, "token subject is not this install"⟩
      else if st.peers.peerGet (.nodeId claims.iss) = none then
        .error ⟨.badRequest, "token issuer is not a known peer"⟩
      else .ok (claims, signed)

def dispatch (st : State) (c : Call) : State × List Event :=
  match c.request with
  | .peerAdd nodeid name addrBlob =>
    match st.peers.peerAdd nodeid name addrBlob c.nowMs with
    | .error e => (st, [.err ⟨.internal, e⟩])
    | .ok peers => ({ st with peers }, [.ok])
  | .peerRm selector =>
    let (peers, n) := st.peers.peerRemove (selToBytes selector)
    ({ st with peers }, if n = 0 then [.err ⟨.notFound, "no such peer"⟩] else [.ok])
  | .tokenGrant peer caps ttlSecs =>
    match st.peers.peerGet (selToBytes peer) with
    | none => (st, [.err ⟨.notFound, "peer not found"⟩])
    | some row =>
      let (claims, signed) := signToken lib secret row.nodeid caps ttlSecs c.nowSecs c.freshId
      ({ st with tokens := st.tokens.tokenInsert (tokenRow lib claims signed) },
        [.tokenIssued (lib.signed.encode signed) (claimsInfo claims)])
  | .tokenImport raw =>
    match admitImport lib secret st raw with
    | .error e => (st, [.err e])
    | .ok (claims, signed) =>
      ({ st with tokens := st.tokens.tokenInsert (tokenRow lib claims signed) },
        [.tokenListItem (claimsInfo claims), .ok])
  | .tokenList =>
    (st, (Lib.orderBy TokenTable.newestFirst st.tokens.rows).map (fun r => .tokenListItem (rowInfo r))
      ++ [.tokenListEnd])
  | .tokenRevoke id =>
    let (tokens, n) := st.tokens.tokenRevoke id
    ({ st with tokens }, if n = 0 then [.err ⟨.notFound, "no such token"⟩] else [.ok])

def Serves (st : State) (c : Call) (st' : State) : Prop :=
  (dispatch lib secret st c).1 = st'

def serveAll (st : State) (calls : List Call) : State :=
  calls.foldl (fun st c => (dispatch lib secret st c).1) st

lemma serveAll_run (st : State) (calls : List Call) :
    Run (Serves lib secret) st calls (serveAll lib secret st calls) := by
  induction calls generalizing st with
  | nil => exact .nil
  | cons c calls ih => exact .cons rfl (ih _)

def written (st : State) (c : Call) : Option (CapabilityToken × SignedToken) :=
  match c.request with
  | .tokenGrant peer caps ttlSecs =>
    (st.peers.peerGet (selToBytes peer)).map fun row =>
      signToken lib secret row.nodeid caps ttlSecs c.nowSecs c.freshId
  | .tokenImport raw => (admitImport lib secret st raw).toOption
  | _ => none

variable {lib secret}

lemma admitImport_ok {st : State} {raw : Bytes} {claims : CapabilityToken} {signed : SignedToken} :
    admitImport lib secret st raw = .ok (claims, signed) ↔
      lib.signed.decode raw = .ok signed ∧ verifySignedClaims lib signed = .ok claims ∧
        claims.sub = nodeidOf lib secret ∧ (st.peers.peerGet (.nodeId claims.iss)).isSome := by
  constructor
  · intro h
    rw [admitImport] at h
    cases hd : lib.signed.decode raw with
    | error e => simp [hd] at h
    | ok s =>
      cases hv : verifySignedClaims lib s with
      | error e => simp [hd, hv] at h
      | ok c =>
        simp only [hd, hv, ne_eq, ite_not] at h
        split_ifs at h with hsub hiss
        obtain ⟨rfl, rfl⟩ : c = claims ∧ s = signed := by simpa using h
        exact ⟨rfl, hv, hsub, Option.ne_none_iff_isSome.mp hiss⟩
  · rintro ⟨hd, hv, hsub, hiss⟩
    simp [admitImport, hd, hv, hsub, Option.ne_none_iff_isSome.mpr hiss]

variable (lib secret) in
lemma tokens_cases (st : State) (c : Call) :
    ((dispatch lib secret st c).1.tokens = st.tokens ∧ written lib secret st c = none) ∨
    (∃ id, c.request = .tokenRevoke id ∧
      (dispatch lib secret st c).1.tokens = (st.tokens.tokenRevoke id).1) ∨
    (∃ claims signed, written lib secret st c = some (claims, signed) ∧
      (dispatch lib secret st c).1.tokens = st.tokens.tokenInsert (tokenRow lib claims signed)) := by
  rw [dispatch, written]
  cases hc : c.request with
  | peerAdd nodeid name addrBlob =>
    refine Or.inl ⟨?_, rfl⟩
    dsimp only
    split <;> rfl
  | peerRm selector => exact Or.inl ⟨rfl, rfl⟩
  | tokenGrant peer caps ttlSecs =>
    dsimp only
    cases hp : st.peers.peerGet (selToBytes peer) with
    | none => exact Or.inl ⟨rfl, rfl⟩
    | some row => exact Or.inr (Or.inr ⟨_, _, rfl, rfl⟩)
  | tokenImport raw =>
    dsimp only
    cases ha : admitImport lib secret st raw with
    | error e => exact Or.inl ⟨rfl, rfl⟩
    | ok p => exact Or.inr (Or.inr ⟨p.1, p.2, rfl, rfl⟩)
  | tokenList => exact Or.inl ⟨rfl, rfl⟩
  | tokenRevoke id => exact Or.inr (Or.inl ⟨id, rfl, rfl⟩)

variable (lib secret) in
lemma peers_cases (st : State) (c : Call) :
    (dispatch lib secret st c).1.peers = st.peers ∨
    (∃ nodeid name addrBlob peers, c.request = .peerAdd nodeid name addrBlob ∧
      st.peers.peerAdd nodeid name addrBlob c.nowMs = .ok peers ∧
      (dispatch lib secret st c).1.peers = peers) ∨
    (∃ selector, c.request = .peerRm selector ∧
      (dispatch lib secret st c).1.peers = (st.peers.peerRemove (selToBytes selector)).1) := by
  rw [dispatch]
  cases hc : c.request with
  | peerAdd nodeid name addrBlob =>
    dsimp only
    cases hp : st.peers.peerAdd nodeid name addrBlob c.nowMs with
    | error e => exact Or.inl rfl
    | ok peers => exact Or.inr (Or.inl ⟨nodeid, name, addrBlob, peers, rfl, hp, rfl⟩)
  | peerRm selector => exact Or.inr (Or.inr ⟨selector, rfl, rfl⟩)
  | tokenGrant peer caps ttlSecs =>
    dsimp only
    split <;> exact Or.inl rfl
  | tokenImport raw =>
    dsimp only
    split <;> exact Or.inl rfl
  | tokenList => exact Or.inl rfl
  | tokenRevoke id => exact Or.inl rfl

lemma written_verifies {st : State} {c : Call} {claims : CapabilityToken} {signed : SignedToken}
    (h : written lib secret st c = some (claims, signed)) :
    verifySignedClaims lib signed = .ok claims := by
  rw [written] at h
  split at h
  · next peer caps ttlSecs _ =>
    obtain ⟨row, _, hr⟩ := Option.map_eq_some_iff.mp h
    have hv := verifySignedClaims_signToken secret row.nodeid caps ttlSecs c.nowSecs c.freshId
    rwa [hr] at hv
  · next raw _ =>
    cases ha : admitImport lib secret st raw with
    | error e => simp [ha, Except.toOption] at h
    | ok p =>
      obtain rfl : p = (claims, signed) := by simpa [ha, Except.toOption] using h
      exact (admitImport_ok.mp ha).2.1
  · cases h

end WalkieTalkie.Daemon.Trust
