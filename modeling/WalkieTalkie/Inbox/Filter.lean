import WalkieTalkie.Store.Trust
import WalkieTalkie.Subscription

/-! Which messages a subscription shows. The selector of a peer is resolved once, by a read of the
peers that may fail; the backlog is filtered by the query and the live tail by a predicate. -/

namespace WalkieTalkie.Inbox

open Proto Store Lib Subscription

/-- The tables that the operations of the daemon build. -/
inductive Built (channelId : String → ChannelId) : MessageTable → Prop
  | empty : Built channelId Table.empty
  | inboxRecord {t : MessageTable} (h : Built channelId t) (sender : NodeId) (channel : String)
      (frame : MessageFrame) (now : UInt64) :
      Built channelId (t.inboxRecord channelId sender channel frame now).1
  | outboxEnqueue {t t' : MessageTable} {sender peer : NodeId} {channel : String} {payload : Bytes}
      {now : UInt64} {row : MessageRow} (h : Built channelId t)
      (he : t.outboxEnqueue channelId sender peer channel payload now = .ok (t', row)) :
      Built channelId t'
  | outboxMarkDelivered {t : MessageTable} (h : Built channelId t) (sender : NodeId)
      (cid : ChannelId) (seq now : UInt64) :
      Built channelId (t.outboxMarkDelivered sender cid seq now)

/-- What `peer_get` answers; `fault` is the error of a read that fails. -/
def peerGet (peers : PeerTable) (fault : Option String) (sel : PeerSelectorBytes) :
    Except String (Option PeerRow) :=
  match fault with
  | some e => .error e
  | none => .ok (peers.peerGet sel)

def lookup (peers : PeerTable) (fault : Option String) (sel : PeerSelectorBytes) :
    Option PeerRow :=
  (peerGet peers fault sel).toOption.join

def inBacklog (peer : Option NodeId) (channel : Option String) (r : MessageRow) : Bool :=
  r.direction = .inbound && peer.all (r.peerNodeid = ·) && channel.all (r.channel = ·)

def after (sinceMs : Option UInt64) (r : MessageRow) : Bool :=
  (sinceMs.getD 0).toInt64 < r.enqueuedAtMs.toInt64

/-- The peers that a selector denotes: every one if there is no selector, none if there is no peer of
the name or its lookup fails. -/
def Denotes (peers : PeerTable) (fault : Option String) : Option PeerSelector → NodeId → Prop
  | none, _ => True
  | some (.nodeId n), p => p = n
  | some (.name n), p => ∃ row, peerGet peers fault (.name n) = .ok (some row) ∧ p = row.nodeid

def Resolves (peers : PeerTable) (fault : Option String) : Option PeerSelector → Prop
  | some (.name n) => fault = none ∧ (peers.peerGet (.name n)).isSome
  | _ => True

structure Filters (channelId : String → ChannelId) (table : MessageTable) (peers : PeerTable)
    (fault : Option String) (r : Request) : Prop where
  emitted : ∀ evs, Writes (lookup peers fault) table r evs → ∀ m ∈ messages evs,
    Denotes peers fault r.peer m.sender ∧ ∀ c, r.channel = some c → m.channel = c
  agrees : ∀ sender fromName channel frame now,
    passes (wantPeer (lookup peers fault) r.peer) r.channel
        (.recvMsg ⟨sender, fromName, channel, frame.payload, frame.tsMs⟩) =
      inBacklog (wantPeer (lookup peers fault) r.peer) r.channel
        (MessageTable.inboundRow channelId sender channel frame now)

variable {channelId : String → ChannelId} {table t : MessageTable} {peers : PeerTable}
  {fault : Option String} {r : Request} {evs : List IpcEvent} {m : RecvMsg}
  {peer : Option NodeId} {channel : Option String} {sinceMs : Option UInt64} {limit : ℕ}
  {answer : List MessageRow}

lemma Built.peer_eq_sender (h : Built channelId t) {row : MessageRow} (hrow : row ∈ t.rows)
    (hd : row.direction = .inbound) : row.peerNodeid = row.sender := by
  induction h generalizing row with
  | empty => cases hrow
  | inboxRecord h sender channel frame now ih =>
    rcases Table.mem_insertOrIgnore.mp hrow with hrow | ⟨rfl, _⟩
    · exact ih hrow hd
    · rfl
  | outboxEnqueue h he ih =>
    obtain ⟨hrows, seq, rfl⟩ := MessageTable.outboxEnqueue_ok he
    rw [hrows] at hrow
    rcases List.mem_append.mp hrow with hrow | hrow
    · exact ih hrow hd
    · rw [List.mem_singleton.mp hrow] at hd
      cases hd
  | outboxMarkDelivered h sender cid seq now ih =>
    obtain ⟨o, ho, rfl⟩ := MessageTable.mem_outboxMarkDelivered.mp hrow
    split at hd
    · next hk =>
      rw [if_pos hk]
      exact @ih o ho hd
    · next hk =>
      rw [if_neg hk]
      exact ih ho hd

lemma inboxBacklog_iff : table.InboxBacklog peer channel sinceMs limit answer ↔
    ∃ rows, OrderedBy MessageTable.oldestFirst
      (table.rows.filter fun row => inBacklog peer channel row && after sinceMs row) rows ∧
      answer = rows.take limit :=
  Iff.rfl

lemma exists_inboxBacklog (table : MessageTable) (peer : Option NodeId) (channel : Option String)
    (sinceMs : Option UInt64) (limit : ℕ) :
    ∃ answer, table.InboxBacklog peer channel sinceMs limit answer :=
  ⟨_, _, orderBy_orderedBy MessageTable.oldestFirst _, rfl⟩

lemma mem_of_inboxBacklog (h : table.InboxBacklog peer channel sinceMs limit answer)
    {row : MessageRow} (hrow : row ∈ answer) :
    row ∈ table.rows ∧ inBacklog peer channel row ∧ after sinceMs row := by
  obtain ⟨rows, hordered, rfl⟩ := inboxBacklog_iff.mp h
  have hmem := hordered.mem_iff.mp (List.mem_of_mem_take hrow)
  rw [List.mem_filter, Bool.and_eq_true] at hmem
  exact hmem

lemma inBacklog_iff {row : MessageRow} : inBacklog peer channel row = true ↔
    row.direction = .inbound ∧ (∀ p, peer = some p → row.peerNodeid = p) ∧
      ∀ c, channel = some c → row.channel = c := by
  cases peer <;> cases channel <;> simp [inBacklog, and_assoc]

lemma passes_iff : passes peer channel (.recvMsg m) = true ↔
    (∀ p, peer = some p → m.sender = p) ∧ ∀ c, channel = some c → m.channel = c := by
  cases peer <;> cases channel <;> simp [passes, @eq_comm _ m.sender, @eq_comm _ m.channel]

lemma passes_eq_inBacklog (channelId : String → ChannelId) (peer : Option NodeId)
    (channel : Option String) (sender : NodeId) (fromName : Option String) (name : String)
    (frame : MessageFrame) (now : UInt64) :
    passes peer channel (.recvMsg ⟨sender, fromName, name, frame.payload, frame.tsMs⟩) =
      inBacklog peer channel (MessageTable.inboundRow channelId sender name frame now) := by
  rw [Bool.eq_iff_iff, passes_iff, inBacklog_iff]
  exact ⟨fun h => ⟨rfl, h⟩, fun h => h.2⟩

lemma mem_messages : m ∈ messages evs ↔ .recvMsg m ∈ evs := by
  rw [messages, List.mem_filterMap]
  constructor
  · rintro ⟨ev, hev, he⟩
    cases ev with
    | recvMsg m' =>
      obtain rfl := Option.some.inj he
      exact hev
    | _ => cases he
  · exact fun h => ⟨_, h, rfl⟩

lemma mem_messages_writes {find : PeerSelectorBytes → Option PeerRow}
    (h : Writes find table r evs) (hm : m ∈ messages evs) :
    (∃ row ∈ table.rows, inBacklog (wantPeer find r.peer) r.channel row ∧ after r.sinceMs row ∧
      m.sender = row.sender ∧ m.channel = row.channel) ∨
    (r.follow = true ∧ passes (wantPeer find r.peer) r.channel (.recvMsg m) = true) := by
  rw [mem_messages] at hm
  induction h with
  | failed e => simp at hm
  | served hrows names hnames live =>
    rcases List.mem_append.mp hm with hm | hm
    · obtain ⟨name, _, row, hrow, he⟩ := of_mem_zipWith hm
      obtain ⟨hmem, hin, hafter⟩ := mem_of_inboxBacklog hrows hrow
      obtain rfl := IpcEvent.recvMsg.inj he
      exact Or.inl ⟨row, hmem, hin, hafter, rfl, rfl⟩
    · rcases List.mem_cons.mp hm with hm | hm
      · cases hm
      · split at hm
        · next hf => exact Or.inr ⟨hf, mem_liveTail hm⟩
        · cases hm
  | lost h hb ih => exact ih (hb.subset hm)

lemma wantPeer_of_not_resolves (h : ¬ Resolves peers fault r.peer) :
    wantPeer (lookup peers fault) r.peer = none ∧ ∀ p, ¬ Denotes peers fault r.peer p := by
  unfold Resolves at h
  split at h
  · next n hsel =>
    rw [hsel]
    cases fault with
    | some e =>
      refine ⟨rfl, fun p hp => ?_⟩
      obtain ⟨row, hget, _⟩ := hp
      cases hget
    | none =>
      have hnone : peers.peerGet (.name n) = none := by
        cases hget : peers.peerGet (.name n) with
        | none => rfl
        | some row => exact absurd ⟨rfl, by rw [hget]; rfl⟩ h
      refine ⟨by simp [wantPeer, lookup, peerGet, hnone, Except.toOption], fun p hp => ?_⟩
      obtain ⟨row, hget, _⟩ := hp
      rw [peerGet, hnone] at hget
      cases hget
  · exact absurd trivial h

lemma denotes_of_wantPeer (h : Resolves peers fault r.peer) {p : NodeId}
    (hp : ∀ w, wantPeer (lookup peers fault) r.peer = some w → p = w) :
    Denotes peers fault r.peer p := by
  cases hsel : r.peer with
  | none => trivial
  | some sel =>
    rw [hsel] at h hp
    cases sel with
    | nodeId n => exact hp n rfl
    | name n =>
      obtain ⟨rfl, hsome⟩ := h
      obtain ⟨row, hget⟩ := Option.isSome_iff_exists.mp hsome
      refine ⟨row, by rw [peerGet, hget], hp row.nodeid ?_⟩
      simp [wantPeer, lookup, peerGet, hget, Except.toOption]

lemma emitted_of_resolves (hb : Built channelId table) (hr : Resolves peers fault r.peer)
    (h : Writes (lookup peers fault) table r evs) (hm : m ∈ messages evs) :
    Denotes peers fault r.peer m.sender ∧ ∀ c, r.channel = some c → m.channel = c := by
  rcases mem_messages_writes h hm with ⟨row, hrow, hin, _, hsender, hchannel⟩ | ⟨_, hpass⟩
  · obtain ⟨hd, hpeer, hchan⟩ := inBacklog_iff.mp hin
    rw [hsender, hchannel]
    rw [hb.peer_eq_sender hrow hd] at hpeer
    exact ⟨denotes_of_wantPeer hr hpeer, hchan⟩
  · obtain ⟨hpeer, hchan⟩ := passes_iff.mp hpass
    exact ⟨denotes_of_wantPeer hr hpeer, hchan⟩

lemma shows_of_follow (hr : ¬ Resolves peers fault r.peer) (hfollow : r.follow = true) :
    ∃ evs, Writes (lookup peers fault) table r evs ∧ ∃ m, m ∈ messages evs := by
  obtain ⟨answer, hanswer⟩ := exists_inboxBacklog table (wantPeer (lookup peers fault) r.peer)
    r.channel r.sinceMs 10000
  obtain ⟨hwant, _⟩ := wantPeer_of_not_resolves hr
  let m : RecvMsg := ⟨Sample.node 0, none, r.channel.getD "", [], 0⟩
  have hpass : passes none r.channel (.recvMsg m) = true := by
    rw [passes_iff]
    refine ⟨fun _ h => (by cases h), fun c hc => ?_⟩
    simp only [m, hc, Option.getD_some]
  refine ⟨_, .served hanswer (answer.map fun _ => none) (List.length_map _)
    [.event (.recvMsg m)], m, ?_⟩
  rw [mem_messages, hfollow, if_pos rfl, hwant, liveTail, if_pos hpass]
  simp

lemma shows_of_row (hr : ¬ Resolves peers fault r.peer) {row : MessageRow}
    (hrow : row ∈ table.rows) (hin : inBacklog none r.channel row = true)
    (hafter : after r.sinceMs row = true) :
    ∃ evs, Writes (lookup peers fault) table r evs ∧ ∃ m, m ∈ messages evs := by
  obtain ⟨answer, hanswer⟩ := exists_inboxBacklog table (wantPeer (lookup peers fault) r.peer)
    r.channel r.sinceMs 10000
  obtain ⟨hwant, _⟩ := wantPeer_of_not_resolves hr
  obtain ⟨rows, hordered, heq⟩ := inboxBacklog_iff.mp hanswer
  have hmem : row ∈ rows := by
    rw [hordered.mem_iff, List.mem_filter, hwant, hin, hafter]
    exact ⟨hrow, rfl⟩
  cases rows with
  | nil => cases hmem
  | cons first rest =>
    refine ⟨_, .served hanswer (answer.map fun _ => none) (List.length_map _) [],
      ⟨first.sender, none, first.channel, first.payload, first.enqueuedAtMs⟩, ?_⟩
    rw [mem_messages, heq, List.take_succ_cons, List.map_cons, List.zipWith_cons_cons]
    exact List.mem_append_left _ List.mem_cons_self

/-- A subscription filters exactly when its selector resolves or there is nothing to show. -/
theorem filters_iff_resolves (hb : Built channelId table) :
    Filters channelId table peers fault r ↔ Resolves peers fault r.peer ∨
      (r.follow = false ∧ ∀ row ∈ table.rows, row.direction = .inbound →
        (∀ c, r.channel = some c → row.channel = c) →
        row.enqueuedAtMs.toInt64 ≤ (r.sinceMs.getD 0).toInt64) := by
  constructor
  · intro h
    by_contra hno
    obtain ⟨hr, hquiet⟩ := not_or.mp hno
    obtain ⟨_, hdenotes⟩ := wantPeer_of_not_resolves hr
    obtain ⟨evs, hwrites, m, hm⟩ : ∃ evs, Writes (lookup peers fault) table r evs ∧
        ∃ m, m ∈ messages evs := by
      cases hfollow : r.follow with
      | true => exact shows_of_follow hr hfollow
      | false =>
        by_contra hnone
        refine hquiet ⟨hfollow, fun row hrow hd hchan => ?_⟩
        by_contra hle
        have hin : inBacklog none r.channel row = true :=
          inBacklog_iff.mpr ⟨hd, fun _ h => (by cases h), hchan⟩
        exact hnone (shows_of_row hr hrow hin (decide_eq_true (Int64.not_le.mp hle)))
    exact hdenotes _ (h.emitted evs hwrites m hm).1
  · rintro (hr | ⟨hfollow, hquiet⟩)
    · exact ⟨fun evs h m hm => emitted_of_resolves hb hr h hm, passes_eq_inBacklog channelId _ _⟩
    · refine ⟨fun evs h m hm => ?_, passes_eq_inBacklog channelId _ _⟩
      rcases mem_messages_writes h hm with ⟨row, hrow, hin, hafter, _, _⟩ | ⟨hf, _⟩
      · obtain ⟨hd, _, hchan⟩ := inBacklog_iff.mp hin
        exact absurd (hquiet row hrow hd hchan) (Int64.not_le.mpr (of_decide_eq_true hafter))
      · rw [hfollow] at hf
        cases hf

def bobPeers : PeerTable := ⟨⟨[⟨Sample.node 2, "bob", 1, none, none⟩], List.nodup_singleton _⟩,
  List.nodup_singleton _⟩

lemma helloTable_built : Built Sample.channelId helloTable :=
  (@Built.empty Sample.channelId).inboxRecord (Sample.node 2) "general" ⟨1, 5, [104, 105]⟩ 6

theorem filters_iff_resolves_bob :
    Filters Sample.channelId helloTable bobPeers none ⟨some (.name "bob"), none, none, true⟩ :=
  (filters_iff_resolves helloTable_built).mpr (Or.inl ⟨rfl, by decide⟩)

theorem unknown_name_shows_everything :
    Built Sample.channelId helloTable ∧ bobPeers.peerGet (.name "carol") = none ∧
    Writes (lookup bobPeers none) helloTable ⟨some (.name "carol"), none, none, false⟩
      [.recvMsg hello, .recvBacklogEnd] ∧
    ¬ Filters Sample.channelId helloTable bobPeers none ⟨some (.name "carol"), none, none, false⟩ := by
  have hrows : helloTable.InboxBacklog none none none 10000 [helloRow] :=
    ⟨[helloRow], ⟨List.Perm.refl _, List.pairwise_singleton _ _⟩, rfl⟩
  have hwrites : Writes (lookup bobPeers none) helloTable
      ⟨some (.name "carol"), none, none, false⟩ [.recvMsg hello, .recvBacklogEnd] :=
    @Writes.served (lookup bobPeers none) helloTable ⟨some (.name "carol"), none, none, false⟩ _
      hrows [some "bob"] rfl []
  refine ⟨helloTable_built, by decide, hwrites, fun h => ?_⟩
  obtain ⟨row, hget, _⟩ := (h.emitted _ hwrites hello (by decide)).1
  cases hget

end WalkieTalkie.Inbox
