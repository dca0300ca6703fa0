import WalkieTalkie.Daemon.Revocation
import WalkieTalkie.Delivery.Authorised

/-! What a revocation and the removal of a peer cut off. A token is checked when a stream opens and
a peer when a connection is accepted, so streams and connections that passed their check earlier go
on delivering; nothing passes afterwards. -/

namespace WalkieTalkie.Delivery.Inbound

open Proto Store Auth Lib Lib.Runs Daemon.Trust Daemon.Revocation

variable {H : Host} {st st' : State} {l : Label}

def StaysRevoked (H : Host) (id : TokenId) (st : State) : Label → Prop
  | .request c => FreshGrant id c ∧ NoReimport H.lib H.secret id st.trust c
  | .verifyToken _ _ fault => fault = none
  | _ => True

def StaysRemoved (R : NodeId) : Label → Prop
  | .request c => ∀ name addrBlob, c.request ≠ .peerAdd R name addrBlob
  | _ => True

def Event.ofToken (id : TokenId) : Event → Prop
  | .verified _ _ _ _ _ _ claims => claims.id = id
  | _ => False

def Event.knowing (R : NodeId) : Event → Prop
  | .accepted _ peers => (peers.peerGet (.nodeId R)).isSome
  | _ => False

def NoneAfter (bad : Event → Prop) (before h : List Event) : Prop :=
  ∀ e ∈ h, bad e → e ∈ before

lemma NoneAfter.append {bad : Event → Prop} {before h events : List Event}
    (hn : NoneAfter bad before h) (hev : ∀ e ∈ events, ¬ bad e) :
    NoneAfter bad before (h ++ events) := by
  intro e he hbad
  rcases List.mem_append.mp he with he | he
  · exact hn e he hbad
  · exact (hev e he hbad).elim

lemma noneAfter_request {bad : Event → Prop} {before : List Event} {call : Call}
    (hn : NoneAfter bad before st.history) (hbad : ∀ claims, ¬ bad (.signed claims)) :
    NoneAfter bad before (st.history ++ signedBy H st.trust call) := by
  refine hn.append fun e he => ?_
  obtain ⟨claims, rfl⟩ := signedBy_signed he
  exact hbad claims

lemma revoked_history_step {id : TokenId} {before : List Event} (hr : Revoked id st.trust)
    (hn : NoneAfter (Event.ofToken id) before st.history) (hg : StaysRevoked H id st l)
    (hstep : Step H st l st') :
    Revoked id st'.trust ∧ NoneAfter (Event.ofToken id) before st'.history := by
  cases hstep with
  | request => exact ⟨revoked_step hr hg.1 hg.2, noneAfter_request hn fun _ h => h⟩
  | connect => exact ⟨hr, hn.append (by simp [Event.ofToken])⟩
  | allow => exact ⟨hr, hn.append (by simp [Event.ofToken])⟩
  | openBi => exact ⟨hr, hn.append (by simp [Event.ofToken])⟩
  | readStreamOpen => exact ⟨hr, hn.append (by simp [Event.ofToken])⟩
  | verifyToken _ _ hverify =>
    obtain rfl := hg
    refine ⟨hr, hn.append fun e he hbad => ?_⟩
    obtain rfl := List.mem_singleton.mp he
    exact verifyToken_id_ne hr hverify hbad
  | readFrame => exact ⟨hr, hn.append (by simp [Event.ofToken])⟩
  | _ => exact ⟨hr, hn⟩

def Absent (R : NodeId) (trust : Daemon.Trust.State) : Prop :=
  ∀ p ∈ trust.peers.table.rows, p.nodeid ≠ R

lemma peerGet_absent {R : NodeId} {trust : Daemon.Trust.State} (ha : Absent R trust) :
    trust.peers.peerGet (.nodeId R) = none := by
  rw [PeerTable.peerGet, List.find?_eq_none]
  intro p hp
  simpa [PeerSelectorBytes.selects] using ha p hp

lemma absent_peerAdd {R nodeid : NodeId} {t t' : PeerTable} {name : String}
    {addrBlob : Option Bytes} {now : UInt64} (ha : ∀ p ∈ t.table.rows, p.nodeid ≠ R)
    (hne : nodeid ≠ R) (hadd : t.peerAdd nodeid name addrBlob now = .ok t') :
    ∀ p ∈ t'.table.rows, p.nodeid ≠ R := by
  rw [PeerTable.peerAdd] at hadd
  split at hadd
  · obtain rfl := Except.ok.inj hadd
    intro p hp
    rcases Table.mem_upsert.mp hp with ⟨hp, _⟩ | ⟨o, ho, _, rfl⟩ | ⟨rfl, _⟩
    · exact ha p hp
    · exact ha o ho
    · exact hne
  · cases hadd

lemma absent_step {R : NodeId} {trust : Daemon.Trust.State} {call : Call} (ha : Absent R trust)
    (hc : ∀ name addrBlob, call.request ≠ .peerAdd R name addrBlob) :
    Absent R (dispatch H.lib H.secret trust call).1 := by
  rw [dispatch]
  cases hreq : call.request with
  | peerAdd nodeid name addrBlob =>
    have hne : nodeid ≠ R := fun he => hc name addrBlob (he ▸ hreq)
    dsimp only
    split
    · exact ha
    · next hadd => exact absent_peerAdd ha hne hadd
  | peerRm selector => exact fun p hp => ha p (Table.mem_delete.mp hp).1
  | tokenGrant peer caps ttlSecs =>
    dsimp only
    split <;> exact ha
  | tokenImport raw =>
    dsimp only
    split <;> exact ha
  | tokenList => exact ha
  | tokenRevoke id => exact ha

lemma removed_history_step {R : NodeId} {before : List Event} (ha : Absent R st.trust)
    (hn : NoneAfter (Event.knowing R) before st.history) (hg : StaysRemoved R l)
    (hstep : Step H st l st') :
    Absent R st'.trust ∧ NoneAfter (Event.knowing R) before st'.history := by
  cases hstep with
  | request => exact ⟨absent_step ha hg, noneAfter_request hn fun _ h => h⟩
  | connect => exact ⟨ha, hn.append (by simp [Event.knowing])⟩
  | allow =>
    refine ⟨ha, hn.append fun e he hbad => ?_⟩
    obtain rfl := List.mem_singleton.mp he
    simp [Event.knowing, peerGet_absent ha] at hbad
  | openBi => exact ⟨ha, hn.append (by simp [Event.knowing])⟩
  | readStreamOpen => exact ⟨ha, hn.append (by simp [Event.knowing])⟩
  | verifyToken => exact ⟨ha, hn.append (by simp [Event.knowing])⟩
  | readFrame => exact ⟨ha, hn.append (by simp [Event.knowing])⟩
  | _ => exact ⟨ha, hn⟩

lemma absent_of_removed {trust : Daemon.Trust.State} {call : Call} {selector : PeerSelector}
    {peer : PeerRow} (hreq : call.request = .peerRm selector)
    (hpeer : trust.peers.peerGet (selToBytes selector) = some peer) :
    Absent peer.nodeid (dispatch H.lib H.secret trust call).1 := by
  intro p hp he
  simp only [dispatch, hreq] at hp
  obtain ⟨hp, hnot⟩ := Table.mem_delete.mp hp
  have hsel : (selToBytes selector).selects peer = true := List.find?_some hpeer
  obtain rfl := trust.peers.table.eq_of_key hp (List.mem_of_find?_eq_some hpeer) he
  simp [hsel] at hnot

structure Traced (H : Host) (st : State) : Prop where
  rows : ∀ r ∈ st.messages.rows, r.direction = .inbound →
    ∃ p : Passage, p.Carries H st r.sender r.channel r.frame
  broadcasts : ∀ a ∈ st.broadcasts,
    ∃ p : Passage, p.Carries H st a.sender a.channel ⟨a.seq, a.tsMs, a.payload⟩

lemma traced_run {labels : List Label} (hrun : Run (Step H) initial labels st) : Traced H st where
  rows r hr hd := ((invariant_run hrun).2.rows r hr hd).passage (invariant_run hrun).1
  broadcasts a ha := ((invariant_run hrun).2.broadcasts a ha).passage (invariant_run hrun).1

lemma unsigned_step {call : Call}
    (hcall : ∀ peer caps ttlSecs, call.request ≠ .tokenGrant peer caps ttlSecs) :
    Step H st (.request call) { st with trust := (dispatch H.lib H.secret st.trust call).1 } := by
  have hnone : signedBy H st.trust call = [] := by
    rw [signedBy]
    split
    · next hreq => exact (hcall _ _ _ hreq).elim
    · rfl
  have hstep := @Step.request H st call
  rwa [hnone, List.append_nil] at hstep

lemma after_revocation {id : TokenId} {revoke : Call} {later : List Label}
    (hreq : revoke.request = .tokenRevoke id)
    (hok : (dispatch H.lib H.secret st.trust revoke).2 = [.ok])
    (hlater : Run (Guarded (StaysRevoked H id) (Step H))
      { st with trust := (dispatch H.lib H.secret st.trust revoke).1 } later st') :
    NoneAfter (Event.ofToken id) st.history st'.history := by
  refine (hlater.invariant (I := fun s => Revoked id s.trust ∧
    NoneAfter (Event.ofToken id) st.history s.history) ?_ ⟨revoked_of_ok hreq hok, ?_⟩).2
  · rintro s l t ⟨hr, hn⟩ ⟨hg, hstep⟩
    exact revoked_history_step hr hn hg hstep
  · exact fun e he _ => he

lemma after_removal {selector : PeerSelector} {peer : PeerRow} {remove : Call} {later : List Label}
    (hreq : remove.request = .peerRm selector)
    (hpeer : st.trust.peers.peerGet (selToBytes selector) = some peer)
    (hlater : Run (Guarded (fun _ => StaysRemoved peer.nodeid) (Step H))
      { st with trust := (dispatch H.lib H.secret st.trust remove).1 } later st') :
    NoneAfter (Event.knowing peer.nodeid) st.history st'.history := by
  refine (hlater.invariant (I := fun s => Absent peer.nodeid s.trust ∧
    NoneAfter (Event.knowing peer.nodeid) st.history s.history) ?_
    ⟨absent_of_removed hreq hpeer, ?_⟩).2
  · rintro s l t ⟨ha, hn⟩ ⟨hg, hstep⟩
    exact removed_history_step ha hn hg hstep
  · exact fun e he _ => he

theorem revocation_and_removal_cut_new_streams {labels : List Label}
    (hrun : Run (Step H) initial labels st) :
    (∀ id revoke later st', revoke.request = .tokenRevoke id →
      (dispatch H.lib H.secret st.trust revoke).2 = [.ok] →
      Run (Guarded (StaysRevoked H id) (Step H))
        { st with trust := (dispatch H.lib H.secret st.trust revoke).1 } later st' →
      Step H st (.request revoke)
        { st with trust := (dispatch H.lib H.secret st.trust revoke).1 } ∧ Traced H st' ∧
      ∀ (p : Passage) R c frame, p.Carries H st' R c frame → p.claims.id = id →
        p.verified ∈ st.history) ∧
    (∀ selector peer remove later st', remove.request = .peerRm selector →
      st.trust.peers.peerGet (selToBytes selector) = some peer →
      Run (Guarded (fun _ => StaysRemoved peer.nodeid) (Step H))
        { st with trust := (dispatch H.lib H.secret st.trust remove).1 } later st' →
      Step H st (.request remove)
        { st with trust := (dispatch H.lib H.secret st.trust remove).1 } ∧ Traced H st' ∧
      ∀ (p : Passage) c frame, p.Carries H st' peer.nodeid c frame →
        .accepted p.conn p.peers ∈ st.history) := by
  refine ⟨?_, ?_⟩
  · intro id revoke later st' hreq hok hlater
    have hstep := @unsigned_step H st revoke (by simp [hreq])
    refine ⟨hstep, traced_run ((hrun.append (.single hstep)).append hlater.forget), ?_⟩
    intro p R c frame hc hid
    exact after_revocation hreq hok hlater p.verified (hc.order.subset (by simp)) hid
  · intro selector peer remove later st' hreq hpeer hlater
    have hstep := @unsigned_step H st remove (by simp [hreq])
    refine ⟨hstep, traced_run ((hrun.append (.single hstep)).append hlater.forget), ?_⟩
    intro p c frame hc
    exact after_removal hreq hpeer hlater _ (hc.order.subset (by simp)) hc.known

def revokeCall : Call := ⟨.tokenRevoke (Sample.tokenId 7), 2000, 2000, Sample.tokenId 0⟩

def removeCall : Call := ⟨.peerRm (.name "alice"), 2000, 2000, Sample.tokenId 0⟩

def revoked : State :=
  { streaming with trust := (dispatch Sample.libraries (Sample.node 2) trusting revokeCall).1 }

def removed : State :=
  { streaming with
    trust := (dispatch Sample.libraries (Sample.node 2) revoked.trust removeCall).1 }

theorem open_stream_outlives_revocation_and_removal :
    ∃ st st₁ st₂ st₃, Run (Step bob) initial openLabels st ∧
      .verified 0 (Sample.node 1) aliceToken.2 1000 none trusting.tokens aliceToken.1 ∈ st.history ∧
      aliceToken.1.id = Sample.tokenId 7 ∧ aliceToken.1.sub = Sample.node 1 ∧
      (dispatch Sample.libraries (Sample.node 2) st.trust revokeCall).2 = [.ok] ∧
      Step bob st (.request revokeCall) st₁ ∧
      st₁.trust.peers.peerGet (.name "alice") = some ⟨Sample.node 1, "alice", 1000, none, none⟩ ∧
      (dispatch Sample.libraries (Sample.node 2) st₁.trust removeCall).2 = [.ok] ∧
      Step bob st₁ (.request removeCall) st₂ ∧ Run (Step bob) st₂ frameLabels st₃ ∧
      helloRow ∈ st₃.messages.rows ∧ helloRow ∉ st₂.messages.rows ∧
      announcement (Sample.node 1) (some "alice") "a" hello ∈ st₃.broadcasts := by
  refine ⟨streaming, revoked, removed, received removed, stream_run.forget, ?_, rfl, rfl,
    by decide +kernel, unsigned_step (by simp [revokeCall]), by decide +kernel, by decide +kernel,
    unsigned_step (by simp [removeCall]), (@frame_run removed rfl rfl rfl).forget,
    List.mem_singleton_self _, ?_, List.mem_singleton_self _⟩
  · simp [streaming, openHistory]
  · exact List.not_mem_nil

theorem revocation_and_removal_cut_new_streams_hello :
    ∃ p : Passage, p.Carries bob (received revoked) (Sample.node 1) "a" hello ∧
      (p.claims.id = Sample.tokenId 7 → p.verified ∈ openHistory) := by
  have hlater : Run (Guarded (StaysRevoked bob (Sample.tokenId 7)) (Step bob)) revoked frameLabels
      (received revoked) := by
    have hframe := (@frame_run revoked rfl rfl rfl).forget.guard (p := (· ∈ frameLabels))
      fun _ h => h
    refine hframe.mono ?_
    rintro s l t ⟨hl, hstep⟩
    refine ⟨?_, hstep⟩
    simp only [frameLabels, List.mem_cons, List.not_mem_nil, or_false] at hl
    rcases hl with rfl | rfl | rfl | rfl <;> trivial
  obtain ⟨_, htraced, hcut⟩ := (revocation_and_removal_cut_new_streams stream_run.forget).1
    (Sample.tokenId 7) revokeCall frameLabels (received revoked) rfl (by decide +kernel) hlater
  obtain ⟨p, hp⟩ := htraced.rows helloRow (List.mem_singleton_self _) rfl
  exact ⟨p, hp, hcut p _ _ _ hp⟩

end WalkieTalkie.Delivery.Inbound
