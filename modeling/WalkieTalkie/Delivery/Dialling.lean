import WalkieTalkie.Daemon.Trust

/-! Whom a daemon dials for a peer: the key of the ticket that is stored with the peer's row if there
is one, and the node id of the row otherwise. The connection authenticates the dialled key, which is
the peer's own as long as every stored ticket is the ticket of its row's node. -/

namespace WalkieTalkie.Delivery

open Proto Store

structure EndpointAddr where
  id : NodeId
  relayUrl : Option String
  ipAddrs : List String
deriving DecidableEq

structure Tickets where
  decode : Bytes → Except String AddrTicket
  isRelayUrl : String → Bool

variable (lib : Auth.Libraries) (T : Tickets)

def connectTicket (ticket : AddrTicket) : Option EndpointAddr :=
  if (lib.ed.fromBytes ticket.nodeid).isSome then
    some ⟨ticket.nodeid, ticket.relayUrl.filter T.isRelayUrl, ticket.directAddrs⟩
  else none

def connect (target : NodeId) : Option EndpointAddr :=
  if (lib.ed.fromBytes target).isSome then some ⟨target, none, []⟩ else none

/-- The address that `open_outbound_stream` dials. -/
def dialled (target : NodeId) (peer : PeerRow) : Option EndpointAddr :=
  match peer.addrBlob with
  | some blob =>
    match T.decode blob with
    | .ok ticket => connectTicket lib T ticket
    | .error _ => none
  | none => connect lib target

/-- A registration with a ticket names the node of that ticket. -/
def NamesTicket (c : Daemon.Trust.Call) : Prop :=
  match c.request with
  | .peerAdd nodeid _ (some blob) => ∀ ticket ∈ (T.decode blob).toOption, ticket.nodeid = nodeid
  | _ => True

instance (c : Daemon.Trust.Call) : Decidable (NamesTicket T c) :=
  match c with
  | ⟨.peerAdd nodeid _ (some blob), _, _, _⟩ =>
    inferInstanceAs (Decidable (∀ ticket ∈ (T.decode blob).toOption, ticket.nodeid = nodeid))
  | ⟨.peerAdd _ _ none, _, _, _⟩ | ⟨.peerRm _, _, _, _⟩ | ⟨.tokenGrant .., _, _, _⟩
  | ⟨.tokenImport _, _, _, _⟩ | ⟨.tokenList, _, _, _⟩ | ⟨.tokenRevoke _, _, _, _⟩ => isTrue trivial

/-- The row's ticket, where it has one that decodes, is the ticket of the row's node. -/
def OwnTicket (p : PeerRow) : Prop :=
  ∀ blob ticket, p.addrBlob = some blob → T.decode blob = .ok ticket → ticket.nodeid = p.nodeid

variable {lib T}

lemma dialled_id {target : NodeId} {peer : PeerRow} {addr : EndpointAddr}
    (h : dialled lib T target peer = some addr) (hpeer : peer.nodeid = target)
    (hown : OwnTicket T peer) : addr.id = target := by
  rw [dialled] at h
  cases hblob : peer.addrBlob with
  | none =>
    rw [hblob] at h
    simp only [connect] at h
    split at h
    · obtain rfl := Option.some.inj h
      rfl
    · cases h
  | some blob =>
    rw [hblob] at h
    cases hd : T.decode blob with
    | error e => simp [hd] at h
    | ok ticket =>
      simp only [hd, connectTicket] at h
      split at h
      · obtain rfl := Option.some.inj h
        exact (hown blob ticket hblob hd).trans hpeer
      · cases h

lemma peerGet_nodeid {t : PeerTable} {n : NodeId} {peer : PeerRow}
    (h : t.peerGet (.nodeId n) = some peer) : peer.nodeid = n := by
  simpa [PeerSelectorBytes.selects] using List.find?_some h

lemma dialled_own {t : PeerTable} {n : NodeId} {peer : PeerRow} {addr : EndpointAddr}
    (hall : ∀ p ∈ t.table.rows, OwnTicket T p) (hpeer : t.peerGet (.nodeId n) = some peer)
    (h : dialled lib T n peer = some addr) : addr.id = n :=
  dialled_id h (peerGet_nodeid hpeer) (hall peer (List.mem_of_find?_eq_some hpeer))

lemma ownTicket_dispatch {secret : lib.ed.SecretKey} {trust : Daemon.Trust.State}
    {call : Daemon.Trust.Call} (hcond : NamesTicket T call)
    (h : ∀ p ∈ trust.peers.table.rows, OwnTicket T p) :
    ∀ p ∈ (Daemon.Trust.dispatch lib secret trust call).1.peers.table.rows, OwnTicket T p := by
  rcases Daemon.Trust.peers_cases lib secret trust call with
    hsame | ⟨nodeid, name, addrBlob, peers, hreq, hadd, hpeers⟩ | ⟨sel, _, hpeers⟩
  · rw [hsame]
    exact h
  · have hnew : ∀ blob ticket, addrBlob = some blob → T.decode blob = .ok ticket →
        ticket.nodeid = nodeid := by
      rintro blob ticket rfl hd
      rw [NamesTicket, hreq] at hcond
      exact hcond ticket (by simp [hd, Except.toOption])
    rw [hpeers]
    intro p hp
    rcases PeerTable.mem_peerAdd hadd hp with hp | ⟨o, ho, hid, rfl⟩ | rfl
    · exact h p hp
    · intro blob ticket hblob hd
      cases addrBlob with
      | none => exact h o ho blob ticket hblob hd
      | some b => exact (hnew blob ticket hblob hd).trans hid.symm
    · exact hnew
  · rw [hpeers]
    intro p hp
    exact h p (List.mem_of_mem_filter hp)

end WalkieTalkie.Delivery
