import WalkieTalkie.Lib.Codings
import WalkieTalkie.Store.Messages

/-! The messages table as SQLite keeps it. Every number is an `INTEGER` column, a signed 64-bit value:
an unsigned one is cast on its way in and cast back on its way out. Written so, the table of messages
is the same table, and every statement on it the same statement. -/

namespace WalkieTalkie.Store.Columns

open Proto Lib

structure MessageColumns where
  idSender : NodeId
  idChannel : ChannelId
  idSeq : Int64
  direction : Int64
  channel : String
  peerNodeid : NodeId
  payload : Bytes
  enqueuedAtMs : Int64
  deliveredAtMs : Option Int64
deriving DecidableEq

namespace MessageColumns

def key (c : MessageColumns) : NodeId × ChannelId × Int64 := (c.idSender, c.idChannel, c.idSeq)

def deliveredAt (now : Int64) (c : MessageColumns) : MessageColumns :=
  { c with deliveredAtMs := some now }

lemma key_deliveredAt (now : Int64) (c : MessageColumns) : (c.deliveredAt now).key = c.key := rfl

end MessageColumns

abbrev Messages := Table MessageColumns (NodeId × ChannelId × Int64) MessageColumns.key

def directionFromI64 (v : Int64) : Option Direction :=
  if v = 0 then some .out else if v = 1 then some .inbound else none

def rowToMessage (c : MessageColumns) : Except String MessageRow :=
  match directionFromI64 c.direction with
  | none => .error "Conversion error from type Integer at index: 3, invalid direction"
  | some direction =>
    .ok ⟨c.idSender, c.idChannel, c.idSeq.toUInt64, direction, c.channel, c.peerNodeid, c.payload,
      c.enqueuedAtMs.toUInt64, c.deliveredAtMs.map Int64.toUInt64⟩

def nextSeq (m : Messages) (sender : NodeId) (cid : ChannelId) : Except String Int64 :=
  let seqs := (m.rows.filter fun c => c.idSender = sender && c.idChannel = cid).map
    fun c => c.idSeq.toInt
  let next := seqs.max?.getD 0 + 1
  if next ≤ Int64.maxValue.toInt then .ok (Int64.ofInt next)
  else .error "Invalid column type Real at index: 0, name: COALESCE(MAX(id_seq), 0) + 1"

def outboxEnqueue (m : Messages) (channelId : String → ChannelId) (sender peerNodeid : NodeId)
    (channel : String) (payload : Bytes) (now : UInt64) : Except String (Messages × MessageRow) :=
  match nextSeq m sender (channelId channel) with
  | .error e => .error e
  | .ok next =>
    match m.insert ⟨sender, channelId channel, next, 0, channel, peerNodeid, payload, now.toInt64,
      none⟩ with
    | none => .error
      "UNIQUE constraint failed: messages.id_sender, messages.id_channel, messages.id_seq"
    | some m' => .ok (m', ⟨sender, channelId channel, next.toUInt64, .out, channel, peerNodeid,
        payload, now, none⟩)

def oldestFirst (c c' : MessageColumns) : Prop := c.enqueuedAtMs ≤ c'.enqueuedAtMs

/-- The answers of a `SELECT … ORDER BY enqueued_at_ms ASC LIMIT …` whose rows are read back. -/
def Selected (m : Messages) (p : MessageColumns → Bool) (limit : ℕ)
    (answer : Except String (List MessageRow)) : Prop :=
  ∃ rows, OrderedBy oldestFirst (m.rows.filter p) rows ∧
    answer = (rows.take limit).mapM rowToMessage

def OutboxPendingForPeer (m : Messages) (peer : NodeId) (limit : ℕ)
    (answer : Except String (List MessageRow)) : Prop :=
  Selected m (fun c => c.direction = 0 && c.deliveredAtMs = none && c.peerNodeid = peer) limit answer

def outboxMarkDelivered (m : Messages) (sender : NodeId) (cid : ChannelId) (seq now : UInt64) :
    Messages :=
  m.update (fun c => c.idSender = sender && c.idChannel = cid && c.idSeq = seq.toInt64 &&
    c.direction = 0) (MessageColumns.deliveredAt now.toInt64) (MessageColumns.key_deliveredAt _)

def inboxRecord (m : Messages) (channelId : String → ChannelId) (sender : NodeId)
    (channel : String) (seq : UInt64) (payload : Bytes) (tsMs now : UInt64) : Messages × Bool :=
  m.insertOrIgnore ⟨sender, channelId channel, seq.toInt64, 1, channel, sender, payload,
    tsMs.toInt64, some now.toInt64⟩

def InboxBacklog (m : Messages) (peer : Option NodeId) (channel : Option String)
    (afterMs : Option UInt64) (limit : ℕ) (answer : Except String (List MessageRow)) : Prop :=
  Selected m (fun c => c.direction = 1 && peer.all (c.peerNodeid = ·) &&
    channel.all (c.channel = ·) && (afterMs.map UInt64.toInt64).getD 0 < c.enqueuedAtMs) limit answer

def directionColumn : Direction → Int64
  | .out => 0
  | .inbound => 1

def columns (r : MessageRow) : MessageColumns :=
  ⟨r.sender, r.channelId, r.seq.toInt64, directionColumn r.direction, r.channel, r.peerNodeid,
    r.payload, r.enqueuedAtMs.toInt64, r.deliveredAtMs.map UInt64.toInt64⟩

lemma toInt64_inj {a b : UInt64} : a.toInt64 = b.toInt64 ↔ a = b := by
  constructor
  · intro h
    rw [← UInt64.toUInt64_toInt64 a, h, UInt64.toUInt64_toInt64]
  · rintro rfl
    rfl

/-- No two messages of one sender and one channel share a number once it is cast. -/
def coding : Coding MessageRow.key MessageColumns.key where
  row := columns
  keys r o := by
    simp only [MessageColumns.key, MessageRow.key, columns, Prod.mk.injEq, toInt64_inj]

def written (t : MessageTable) : Messages := coding.table t

lemma directionFromI64_directionColumn (d : Direction) :
    directionFromI64 (directionColumn d) = some d := by
  cases d <;> decide

lemma rowToMessage_columns (r : MessageRow) : rowToMessage (columns r) = .ok r := by
  have hdirection : directionFromI64 (columns r).direction = some r.direction :=
    directionFromI64_directionColumn r.direction
  rw [rowToMessage, hdirection]
  obtain ⟨sender, cid, seq, direction, channel, peer, payload, enqueued, delivered⟩ := r
  cases delivered <;> rfl

lemma nextSeq_written (t : MessageTable) (sender : NodeId) (cid : ChannelId) :
    nextSeq (written t) sender cid = (t.nextSeq sender cid).map UInt64.toInt64 := by
  have hseqs : ((written t).rows.filter fun c => c.idSender = sender && c.idChannel = cid).map
      (fun c => c.idSeq.toInt) = t.seqsOf sender cid := by
    rw [written, coding.filter_table (p := fun r => r.sender = sender && r.channelId = cid)
      (fun _ => rfl), List.map_map]
    rfl
  simp only [nextSeq, MessageTable.nextSeq, hseqs]
  split
  · exact congrArg Except.ok (Int64.toInt64_toUInt64 _).symm
  · rfl

lemma outboxEnqueue_written (t : MessageTable) (channelId : String → ChannelId)
    (sender peer : NodeId) (channel : String) (payload : Bytes) (now : UInt64) :
    outboxEnqueue (written t) channelId sender peer channel payload now =
      (t.outboxEnqueue channelId sender peer channel payload now).map
        fun p => (written p.1, p.2) := by
  rw [outboxEnqueue, nextSeq_written, MessageTable.outboxEnqueue]
  cases t.nextSeq sender (channelId channel) with
  | error e => rfl
  | ok seq =>
    have hinsert : (written t).insert ⟨sender, channelId channel, seq.toInt64, 0, channel, peer,
        payload, now.toInt64, none⟩ = (t.insert ⟨sender, channelId channel, seq, .out, channel, peer,
        payload, now, none⟩).map written :=
      coding.insert_table t ⟨_, _, _, .out, _, _, _, _, none⟩
    simp only [Except.map, hinsert, UInt64.toUInt64_toInt64]
    cases t.insert ⟨sender, channelId channel, seq, .out, channel, peer, payload, now, none⟩ with
    | none => rfl
    | some t' => rfl

lemma outboxMarkDelivered_written (t : MessageTable) (sender : NodeId) (cid : ChannelId)
    (seq now : UInt64) : outboxMarkDelivered (written t) sender cid seq now =
      written (t.outboxMarkDelivered sender cid seq now) := by
  refine coding.update_table (fun r => ?_) fun r => rfl
  rw [Bool.eq_iff_iff]
  cases hd : r.direction with
  | out => simp [coding, columns, directionColumn, MessageRow.key, toInt64_inj, hd, and_assoc]
  | inbound => simp [coding, columns, directionColumn, hd]

lemma inboxRecord_written (t : MessageTable) (channelId : String → ChannelId) (sender : NodeId)
    (channel : String) (seq : UInt64) (payload : Bytes) (tsMs now : UInt64) :
    inboxRecord (written t) channelId sender channel seq payload tsMs now =
      (written (t.inboxRecord channelId sender channel ⟨seq, tsMs, payload⟩ now).1,
        (t.inboxRecord channelId sender channel ⟨seq, tsMs, payload⟩ now).2) :=
  coding.insertOrIgnore_table t
    (MessageTable.inboundRow channelId sender channel ⟨seq, tsMs, payload⟩ now)

lemma mapM_rowToMessage (rows : List MessageRow) :
    (rows.map columns).mapM rowToMessage = .ok rows := by
  induction rows with
  | nil => rfl
  | cons r rows ih =>
    rw [List.map_cons, List.mapM_cons, rowToMessage_columns, ih]
    rfl

lemma selected_written {t : MessageTable} {p : MessageRow → Bool} {p' : MessageColumns → Bool}
    (hp : ∀ r, p' (columns r) = p r) {limit : ℕ} {answer : Except String (List MessageRow)} :
    Selected (written t) p' limit answer ↔ ∃ read, answer = .ok read ∧
      ∃ rows, OrderedBy MessageTable.oldestFirst (t.rows.filter p) rows ∧ read = rows.take limit := by
  have hrows := @Coding.orderedBy_rows _ _ _ _ _ _ coding MessageTable.oldestFirst oldestFirst
    (fun _ _ => Iff.rfl) (t.rows.filter p)
  rw [Selected, written, coding.filter_table hp]
  constructor
  · rintro ⟨result, hresult, rfl⟩
    obtain ⟨rows, hordered, rfl⟩ := hrows.mp hresult
    refine ⟨rows.take limit, ?_, rows, hordered, rfl⟩
    rw [← List.map_take]
    exact mapM_rowToMessage _
  · rintro ⟨_, rfl, rows, hordered, rfl⟩
    refine ⟨rows.map columns, hrows.mpr ⟨rows, hordered, rfl⟩, ?_⟩
    rw [← List.map_take]
    exact (mapM_rowToMessage _).symm

lemma outboxPendingForPeer_written {t : MessageTable} {peer : NodeId} {limit : ℕ}
    {answer : Except String (List MessageRow)} : OutboxPendingForPeer (written t) peer limit answer ↔
      ∃ rows, answer = .ok rows ∧ t.OutboxPendingForPeer peer limit rows := by
  refine selected_written fun r => ?_
  cases hd : r.direction with
  | out => simp [columns, directionColumn, hd]
  | inbound => simp [columns, directionColumn, hd]

lemma inboxBacklog_written {t : MessageTable} {peer : Option NodeId} {channel : Option String}
    {afterMs : Option UInt64} {limit : ℕ} {answer : Except String (List MessageRow)} :
    InboxBacklog (written t) peer channel afterMs limit answer ↔
      ∃ rows, answer = .ok rows ∧ t.InboxBacklog peer channel afterMs limit rows := by
  have hafter : (afterMs.map UInt64.toInt64).getD 0 = (afterMs.getD 0).toInt64 := by
    cases afterMs with
    | none => rfl
    | some ms => rfl
  refine selected_written fun r => ?_
  rw [hafter]
  cases hd : r.direction with
  | out => simp [columns, directionColumn, hd]
  | inbound => simp [columns, directionColumn, hd]

end WalkieTalkie.Store.Columns
