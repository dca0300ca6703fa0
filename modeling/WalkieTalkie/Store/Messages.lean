import Mathlib.Data.List.MinMax
import WalkieTalkie.Lib.Tables
import WalkieTalkie.Proto

/-! The messages table of the store: outbox and inbox rows under one primary key. Integers are
stored signed, so `MAX(id_seq) + 1` overflows past the largest signed 64-bit value. The hash that
names a channel is a parameter. -/

namespace WalkieTalkie.Store

open Proto Lib

abbrev ChannelId := Vector UInt8 16

inductive Direction
  | out
  | inbound
deriving DecidableEq

structure MessageRow where
  sender : NodeId
  channelId : ChannelId
  seq : UInt64
  direction : Direction
  channel : String
  peerNodeid : NodeId
  payload : Bytes
  enqueuedAtMs : UInt64
  deliveredAtMs : Option UInt64
deriving DecidableEq

namespace MessageRow

def key (r : MessageRow) : NodeId × ChannelId × UInt64 := (r.sender, r.channelId, r.seq)

def undelivered (r : MessageRow) : MessageRow := { r with deliveredAtMs := none }

def deliveredAt (now : UInt64) (r : MessageRow) : MessageRow := { r with deliveredAtMs := some now }

lemma key_deliveredAt (now : UInt64) (r : MessageRow) : (r.deliveredAt now).key = r.key := rfl

def frame (r : MessageRow) : MessageFrame := ⟨r.seq, r.enqueuedAtMs, r.payload⟩

end MessageRow

abbrev MessageTable := Table MessageRow (NodeId × ChannelId × UInt64) MessageRow.key

namespace MessageTable

def seqsOf (t : MessageTable) (sender : NodeId) (cid : ChannelId) : List ℤ :=
  (t.rows.filter fun r => r.sender = sender && r.channelId = cid).map fun r => r.seq.toInt64.toInt

def nextSeq (t : MessageTable) (sender : NodeId) (cid : ChannelId) : Except String UInt64 :=
  let next := (t.seqsOf sender cid).max?.getD 0 + 1
  if next ≤ Int64.maxValue.toInt then .ok (Int64.ofInt next).toUInt64
  else .error "Invalid column type Real at index: 0, name: COALESCE(MAX(id_seq), 0) + 1"

def outboxEnqueue (t : MessageTable) (channelId : String → ChannelId) (sender peerNodeid : NodeId)
    (channel : String) (payload : Bytes) (now : UInt64) :
    Except String (MessageTable × MessageRow) :=
  match t.nextSeq sender (channelId channel) with
  | .error e => .error e
  | .ok seq =>
    let row : MessageRow :=
      ⟨sender, channelId channel, seq, .out, channel, peerNodeid, payload, now, none⟩
    match t.insert row with
    | none => .error
      "UNIQUE constraint failed: messages.id_sender, messages.id_channel, messages.id_seq"
    | some t' => .ok (t', row)

def pendingFor (t : MessageTable) (peer : NodeId) : List MessageRow :=
  t.rows.filter fun r => r.direction = .out && r.deliveredAtMs = none && r.peerNodeid = peer

def oldestFirst (r r' : MessageRow) : Prop :=
  r.enqueuedAtMs.toInt64 ≤ r'.enqueuedAtMs.toInt64

instance : DecidableRel oldestFirst :=
  fun r r' => inferInstanceAs (Decidable (r.enqueuedAtMs.toInt64 ≤ r'.enqueuedAtMs.toInt64))

instance : Std.Total oldestFirst := ⟨fun _ _ => Int64.le_total _ _⟩

instance : IsTrans MessageRow oldestFirst := ⟨fun _ _ _ h h' => Int64.le_trans h h'⟩

/-- The answers `outbox_pending_for_peer` may give: rows enqueued in the same millisecond come in
any order. -/
def OutboxPendingForPeer (t : MessageTable) (peer : NodeId) (limit : ℕ)
    (answer : List MessageRow) : Prop :=
  ∃ rows, OrderedBy oldestFirst (t.pendingFor peer) rows ∧ answer = rows.take limit

def outboxMarkDelivered (t : MessageTable) (sender : NodeId) (cid : ChannelId) (seq now : UInt64) :
    MessageTable :=
  t.update (fun r => r.key = (sender, cid, seq) && r.direction = .out)
    (MessageRow.deliveredAt now) (MessageRow.key_deliveredAt now)

def inboundRow (channelId : String → ChannelId) (sender : NodeId) (channel : String)
    (frame : MessageFrame) (now : UInt64) : MessageRow :=
  ⟨sender, channelId channel, frame.seq, .inbound, channel, sender, frame.payload, frame.tsMs,
    some now⟩

def inboxRecord (t : MessageTable) (channelId : String → ChannelId) (sender : NodeId)
    (channel : String) (frame : MessageFrame) (now : UInt64) : MessageTable × Bool :=
  t.insertOrIgnore (inboundRow channelId sender channel frame now)

/-- The answers `inbox_backlog` may give: rows of the same time stamp come in any order. -/
def InboxBacklog (t : MessageTable) (peer : Option NodeId) (channel : Option String)
    (afterMs : Option UInt64) (limit : ℕ) (answer : List MessageRow) : Prop :=
  ∃ rows, OrderedBy oldestFirst
    (t.rows.filter fun r => r.direction = .inbound && peer.all (r.peerNodeid = ·) &&
      channel.all (r.channel = ·) && (afterMs.getD 0).toInt64 < r.enqueuedAtMs.toInt64) rows ∧
    answer = rows.take limit

def outbox (t : MessageTable) : List MessageRow :=
  t.rows.filter fun r => r.direction = .out

lemma mem_outbox {t : MessageTable} {r : MessageRow} :
    r ∈ t.outbox ↔ r ∈ t.rows ∧ r.direction = .out := by
  simp [outbox]

lemma mem_pendingFor {t : MessageTable} {peer : NodeId} {r : MessageRow} :
    r ∈ t.pendingFor peer ↔ r ∈ t.outbox ∧ r.deliveredAtMs = none ∧ r.peerNodeid = peer := by
  simp [pendingFor, mem_outbox, and_assoc]

lemma OutboxPendingForPeer.mem {t : MessageTable} {peer : NodeId} {limit : ℕ}
    {answer : List MessageRow} (h : t.OutboxPendingForPeer peer limit answer) {r : MessageRow}
    (hr : r ∈ answer) : r ∈ t.outbox ∧ r.deliveredAtMs = none ∧ r.peerNodeid = peer := by
  obtain ⟨rows, ho, rfl⟩ := h
  exact mem_pendingFor.mp (ho.mem_iff.mp (List.mem_of_mem_take hr))

lemma seq_lt_nextSeq {t : MessageTable} {sender : NodeId} {cid : ChannelId} {seq : UInt64}
    (h : t.nextSeq sender cid = .ok seq) {r : MessageRow} (hr : r ∈ t.rows)
    (hs : r.sender = sender) (hc : r.channelId = cid) :
    r.seq.toInt64.toInt < seq.toInt64.toInt := by
  rw [nextSeq] at h
  split at h
  · next hle =>
    have hmem : r.seq.toInt64.toInt ∈ t.seqsOf sender cid :=
      List.mem_map_of_mem (List.mem_filter.mpr ⟨hr, by simp [hs, hc]⟩)
    obtain ⟨m, hm⟩ := Option.isSome_iff_exists.mp (List.isSome_max?_of_mem hmem)
    obtain ⟨hmax, hub⟩ := List.max?_eq_some_iff.mp hm
    obtain ⟨r', hr', rfl⟩ := List.mem_map.mp hmax
    have hlow := r'.seq.toInt64.le_toInt
    have hb := hub _ hmem
    rw [hm, Option.getD_some] at h hle
    obtain rfl := Except.ok.inj h
    rw [Int64.toInt64_toUInt64, Int64.toInt_ofInt_of_le (by omega) (by
      rw [Int64.toInt_maxValue] at hle
      omega)]
    omega
  · cases h

lemma outboxEnqueue_of_nextSeq {t : MessageTable} {channelId : String → ChannelId}
    {sender : NodeId} {channel : String} {seq : UInt64}
    (h : t.nextSeq sender (channelId channel) = .ok seq) (peer : NodeId) (payload : Bytes)
    (now : UInt64) : ∃ t', t.outboxEnqueue channelId sender peer channel payload now =
      .ok (t', ⟨sender, channelId channel, seq, .out, channel, peer, payload, now, none⟩) := by
  let row : MessageRow :=
    ⟨sender, channelId channel, seq, .out, channel, peer, payload, now, none⟩
  have hnew : t.has row.key = false := by
    rw [Table.has_eq_false]
    intro r hr hk
    obtain ⟨hs, hk⟩ := Prod.mk.inj hk
    obtain ⟨hc, hq⟩ := Prod.mk.inj hk
    have hlt := seq_lt_nextSeq h hr hs hc
    rw [hq] at hlt
    exact lt_irrefl _ hlt
  obtain ⟨t', ht⟩ : ∃ t', t.insert row = some t' := by
    rw [Table.insert, dif_neg (by simp [hnew])]
    exact ⟨_, rfl⟩
  refine ⟨t', ?_⟩
  simp only [outboxEnqueue, h]
  rw [ht]

lemma outboxEnqueue_ok {t t' : MessageTable} {channelId : String → ChannelId}
    {sender peer : NodeId} {channel : String} {payload : Bytes} {now : UInt64} {row : MessageRow}
    (h : t.outboxEnqueue channelId sender peer channel payload now = .ok (t', row)) :
    t'.rows = t.rows ++ [row] ∧ ∃ seq, row =
      ⟨sender, channelId channel, seq, .out, channel, peer, payload, now, none⟩ := by
  rw [outboxEnqueue] at h
  split at h
  · cases h
  · next seq _ =>
    dsimp only at h
    split at h
    · cases h
    · next t'' hi =>
      obtain ⟨rfl, rfl⟩ := Prod.mk.inj (Except.ok.inj h)
      exact ⟨Table.insert_rows hi, seq, rfl⟩

lemma outboxEnqueue_pending {t t' : MessageTable} {channelId : String → ChannelId}
    {sender peer : NodeId} {channel : String} {payload : Bytes} {now : UInt64} {row : MessageRow}
    (h : t.outboxEnqueue channelId sender peer channel payload now = .ok (t', row)) :
    row ∈ t'.pendingFor peer := by
  obtain ⟨hrows, seq, rfl⟩ := outboxEnqueue_ok h
  rw [mem_pendingFor, mem_outbox, hrows]
  exact ⟨⟨List.mem_append_right _ (List.mem_singleton_self _), rfl⟩, rfl, rfl⟩

lemma outboxEnqueue_seq {t t' : MessageTable} {channelId : String → ChannelId}
    {sender peer : NodeId} {channel : String} {payload : Bytes} {now : UInt64} {row : MessageRow}
    (h : t.outboxEnqueue channelId sender peer channel payload now = .ok (t', row)) :
    t.nextSeq sender (channelId channel) = .ok row.seq := by
  cases hn : t.nextSeq sender (channelId channel) with
  | error e => simp [outboxEnqueue, hn] at h
  | ok seq =>
    obtain ⟨t'', ht⟩ := outboxEnqueue_of_nextSeq hn peer payload now
    obtain ⟨_, rfl⟩ := Prod.mk.inj (Except.ok.inj (ht.symm.trans h))
    rfl

lemma mem_outboxMarkDelivered {t : MessageTable} {sender : NodeId} {cid : ChannelId}
    {seq now : UInt64} {r : MessageRow} : r ∈ (t.outboxMarkDelivered sender cid seq now).rows ↔
      ∃ o ∈ t.rows, r = if o.key = (sender, cid, seq) ∧ o.direction = .out
        then o.deliveredAt now else o := by
  rw [outboxMarkDelivered, Table.mem_update]
  simp only [Bool.and_eq_true, decide_eq_true_eq]

lemma outbox_outboxMarkDelivered (t : MessageTable) (sender : NodeId) (cid : ChannelId)
    (seq now : UInt64) : (t.outboxMarkDelivered sender cid seq now).outbox =
      t.outbox.map fun r =>
        if r.key = (sender, cid, seq) then r.deliveredAt now else r := by
  simp only [outbox, outboxMarkDelivered, Table.update, List.filter_map]
  rw [show ((fun r : MessageRow => decide (r.direction = .out)) ∘ fun r =>
      if (decide (r.key = (sender, cid, seq)) && decide (r.direction = .out)) = true
      then r.deliveredAt now else r) =
      fun r => decide (r.direction = .out) by
    funext r
    dsimp only [Function.comp_apply]
    split <;> rfl]
  refine List.map_congr_left fun r hr => ?_
  have hd : r.direction = .out := by simpa using List.of_mem_filter hr
  simp [hd]

lemma pendingFor_outboxMarkDelivered (t : MessageTable) (sender peer : NodeId) (cid : ChannelId)
    (seq now : UInt64) : (t.outboxMarkDelivered sender cid seq now).pendingFor peer =
      (t.pendingFor peer).filter fun r => r.key ≠ (sender, cid, seq) := by
  rw [pendingFor, outboxMarkDelivered, Table.filter_update (by intro r _; simp [MessageRow.deliveredAt]),
    pendingFor, List.filter_filter]
  refine List.filter_congr fun r _ => ?_
  by_cases hd : r.direction = .out
  · simp [hd]
  · simp [hd]

lemma outbox_inboxRecord (t : MessageTable) (channelId : String → ChannelId) (sender : NodeId)
    (channel : String) (frame : MessageFrame) (now : UInt64) :
    (t.inboxRecord channelId sender channel frame now).1.outbox = t.outbox := by
  rw [outbox, inboxRecord]
  cases h : t.has (inboundRow channelId sender channel frame now).key with
  | true => rw [Table.insertOrIgnore_of_has h, outbox]
  | false =>
    rw [(Table.insertOrIgnore_of_not_has h).1, List.filter_append, outbox]
    simp [inboundRow]

lemma nodup_outbox (t : MessageTable) : (t.outbox.map MessageRow.key).Nodup :=
  t.nodup.sublist (List.filter_sublist.map _)

end MessageTable

end WalkieTalkie.Store
