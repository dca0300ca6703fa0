import WalkieTalkie.Delivery.System
import WalkieTalkie.Lib.Cbor
import WalkieTalkie.Sample

/-! One drain of a peer's outbox. The rows come in batches, oldest first; each is framed, written and
marked before the next, and the first failure ends the drain. The transport of the peer answers each
call from the number of calls before it. The `Send` requests that fill the outbox come in IPC frames
with a limit of their own. -/

namespace WalkieTalkie.Delivery.Drain

open Proto Store Lib Lib.Runs

def maxIpcFrameBytes : ℕ := 64 * 1024 * 1024

structure SendRequest where
  peer : PeerSelector
  channel : String
  payload : Bytes

def selectorCbor : PeerSelector → Bytes
  | .name n => Cbor.variant "Name" (Cbor.text n)
  | .nodeId n => Cbor.variant "NodeId" (Cbor.byteArray n.bytes.toList)

def SendRequest.cbor (r : SendRequest) : Bytes :=
  Cbor.variant "Send" (Cbor.record
    [("peer", selectorCbor r.peer), ("channel", Cbor.text r.channel),
      ("payload", Cbor.byteArray r.payload)])

def frameCbor (f : MessageFrame) : Bytes :=
  Cbor.record [("seq", Cbor.uint f.seq.toNat), ("ts_ms", Cbor.uint f.tsMs.toNat),
    ("payload", Cbor.byteArray f.payload)]

structure Transport where
  order : ℕ → List MessageRow → List MessageRow
  ordered : ∀ k rows, OrderedBy MessageTable.oldestFirst rows (order k rows)
  openStream : ℕ → String → Except String Unit
  write : ℕ → String → Bytes → Except String Unit
  nowMs : ℕ → UInt64

def Transport.Healthy (T : Transport) : Prop :=
  (∀ k channel, T.openStream k channel = .ok ()) ∧ ∀ k channel body, T.write k channel body = .ok ()

inductive DrainError
  | openOutboundStream (e : String)
  | frameTooLarge (bytes : ℕ)
  | writeMessageFrame (e : String)
deriving DecidableEq

structure State where
  table : MessageTable
  streams : List String
  wire : List (String × Bytes)
  calls : ℕ

def State.dropStream (st : State) (channel : String) : State :=
  { st with streams := st.streams.filter fun c => c ≠ channel }

structure Daemon where
  peers : PeerTable
  table : MessageTable

inductive Label
  | peers (peers : PeerTable)
  | send (request : SendRequest) (nowMs : UInt64)
  | delivered (sender : NodeId) (cid : ChannelId) (seq nowMs : UInt64)

/-- How the outbox is filled: a `Send` is accepted when its frame is within the limit of the IPC
reader, the peer is known and the insertion succeeds. -/
def accept (channelId : String → ChannelId) (self : NodeId) (d : Daemon) : Label → Option Daemon
  | .peers peers => some { d with peers }
  | .send r now =>
    if maxIpcFrameBytes < r.cbor.length then none
    else
      match d.peers.peerGet (Daemon.Trust.selToBytes r.peer) with
      | none => none
      | some peer =>
        match d.table.outboxEnqueue channelId self peer.nodeid r.channel r.payload now with
        | .error _ => none
        | .ok (table, _) => some { d with table }
  | .delivered sender cid seq now =>
    some { d with table := d.table.outboxMarkDelivered sender cid seq now }

variable (T : Transport)

def writeRow (st : State) (row : MessageRow) : State × Except DrainError Unit :=
  let body := frameCbor row.frame
  if maxFrameBytes < body.length then
    (st.dropStream row.channel, .error (.frameTooLarge body.length))
  else
    match T.write st.calls row.channel body with
    | .error e => (st.dropStream row.channel, .error (.writeMessageFrame e))
    | .ok () =>
      ({ st with
          table := st.table.outboxMarkDelivered row.sender row.channelId row.seq (T.nowMs st.calls)
          wire := st.wire ++ [(row.channel, body)]
          calls := st.calls + 1 }, .ok ())

def deliverRow (st : State) (row : MessageRow) : State × Except DrainError Unit :=
  if row.channel ∈ st.streams then writeRow T st row
  else
    match T.openStream st.calls row.channel with
    | .error e => (st, .error (.openOutboundStream e))
    | .ok () =>
      writeRow T { st with streams := row.channel :: st.streams, calls := st.calls + 1 } row

def deliverRows : State → List MessageRow → State × Except DrainError Unit
  | st, [] => (st, .ok ())
  | st, row :: rows =>
    match deliverRow T st row with
    | (st', .error e) => (st', .error e)
    | (st', .ok ()) => deliverRows st' rows

def batch (st : State) (peer : NodeId) : List MessageRow :=
  (T.order st.calls (st.table.pendingFor peer)).take deliveryBatch

/-- `none` when the loop has not ended after as many batches as the fuel allows. -/
def drainPeer (peer : NodeId) : ℕ → State → Option (State × Except DrainError Unit)
  | 0, _ => none
  | fuel + 1, st =>
    match batch T st peer with
    | [] => some (st, .ok ())
    | row :: rows =>
      match deliverRows T { st with calls := st.calls + 1 } (row :: rows) with
      | (st', .error e) => some (st', .error e)
      | (st', .ok ()) => drainPeer peer fuel st'

/-- The loop ends without an error, however much more fuel it gets, and nothing is left. -/
def Drained (peer : NodeId) (st : State) : Prop :=
  ∃ n st', (∀ fuel, n ≤ fuel → drainPeer T peer fuel st = some (st', .ok ())) ∧
    st'.table.pendingFor peer = []

/-- The length of the frame of a row: nineteen bytes of field names, the heads of the two integers
and of the payload, and one byte or two for each byte of the payload. -/
def frameLength (r : MessageRow) : ℕ :=
  19 + Cbor.headLength r.seq.toNat + Cbor.headLength r.enqueuedAtMs.toNat +
    Cbor.headLength r.payload.length + r.payload.length + r.payload.countP fun b => 24 ≤ b

def Framable (r : MessageRow) : Prop := frameLength r ≤ maxFrameBytes

instance (r : MessageRow) : Decidable (Framable r) :=
  inferInstanceAs (Decidable (frameLength r ≤ maxFrameBytes))

variable {T}

lemma length_frameCbor (r : MessageRow) : (frameCbor r.frame).length = frameLength r := by
  have hseq : (Cbor.text "seq").length = 4 := by decide
  have hts : (Cbor.text "ts_ms").length = 6 := by decide
  have hpayload : (Cbor.text "payload").length = 8 := by decide
  have hhead : Cbor.headLength 3 = 1 := by decide
  rw [frameCbor, Cbor.length_record, frameLength]
  simp only [List.map_cons, List.map_nil, List.sum_cons, List.sum_nil, List.length_cons,
    List.length_nil, Nat.reduceAdd, hhead, hseq, hts, hpayload, Cbor.length_uint,
    Cbor.length_byteArray]
  dsimp only [MessageRow.frame]
  omega

lemma writeRow_framable (hT : T.Healthy) (st : State) {row : MessageRow} (hr : Framable row) :
    ∃ st', writeRow T st row = (st', .ok ()) ∧
      st'.table = st.table.outboxMarkDelivered row.sender row.channelId row.seq (T.nowMs st.calls) := by
  have hfits : ¬ maxFrameBytes < (frameCbor row.frame).length := by
    rw [length_frameCbor]
    exact Nat.not_lt.mpr hr
  rw [writeRow]
  simp only [if_neg hfits, hT.2]
  exact ⟨_, rfl, rfl⟩

lemma writeRow_too_large (st : State) {row : MessageRow} (hr : ¬ Framable row) :
    writeRow T st row = (st.dropStream row.channel, .error (.frameTooLarge (frameLength row))) := by
  have hlarge : maxFrameBytes < frameLength row := Nat.lt_of_not_le hr
  rw [writeRow]
  simp only [length_frameCbor, if_pos hlarge]

lemma deliverRow_framable (hT : T.Healthy) (st : State) {row : MessageRow} (hr : Framable row) :
    ∃ st' now, deliverRow T st row = (st', .ok ()) ∧
      st'.table = st.table.outboxMarkDelivered row.sender row.channelId row.seq now := by
  rw [deliverRow]
  split
  · obtain ⟨st', hst, ht⟩ := writeRow_framable hT st hr
    exact ⟨st', _, hst, ht⟩
  · simp only [hT.1]
    obtain ⟨st', hst, ht⟩ := writeRow_framable hT
      { st with streams := row.channel :: st.streams, calls := st.calls + 1 } hr
    exact ⟨st', _, hst, ht⟩

lemma deliverRows_framable (hT : T.Healthy) (peer : NodeId) {rows : List MessageRow}
    (hrows : ∀ r ∈ rows, Framable r) (st : State) :
    ∃ st', deliverRows T st rows = (st', .ok ()) ∧ st'.table.pendingFor peer =
      (st.table.pendingFor peer).filter fun r => r.key ∉ rows.map MessageRow.key := by
  induction rows generalizing st with
  | nil => exact ⟨st, rfl, by simp⟩
  | cons row rows ih =>
    obtain ⟨st', now, hst, ht⟩ := deliverRow_framable hT st (hrows row (List.mem_cons_self ..))
    obtain ⟨st'', hst', hp⟩ := ih (fun r hr => hrows r (List.mem_cons_of_mem _ hr)) st'
    refine ⟨st'', ?_, ?_⟩
    · rw [deliverRows, hst]
      exact hst'
    · rw [hp, ht, MessageTable.pendingFor_outboxMarkDelivered, List.filter_filter]
      refine List.filter_congr fun r _ => ?_
      rw [← MessageRow.key, List.map_cons]
      simp [Bool.and_comm]

lemma mem_batch {st : State} {peer : NodeId} {r : MessageRow} (h : r ∈ batch T st peer) :
    r ∈ st.table.pendingFor peer :=
  (T.ordered st.calls _).mem_iff.mp (List.mem_of_mem_take h)

lemma batch_eq_nil {st : State} {peer : NodeId} (h : batch T st peer = []) :
    st.table.pendingFor peer = [] := by
  rcases List.take_eq_nil_iff.mp h with h | h
  · cases h
  · have hperm := (T.ordered st.calls (st.table.pendingFor peer)).1
    rw [h] at hperm
    exact hperm.nil_eq.symm

lemma drainPeer_framable (hT : T.Healthy) (peer : NodeId) (fuel : ℕ) (st : State)
    (hfuel : (st.table.pendingFor peer).length < fuel)
    (hrows : ∀ r ∈ st.table.pendingFor peer, Framable r) :
    ∃ st', (∀ more, drainPeer T peer (fuel + more) st = some (st', .ok ())) ∧
      st'.table.pendingFor peer = [] := by
  induction fuel generalizing st with
  | zero => omega
  | succ fuel ih =>
    cases hb : batch T st peer with
    | nil =>
      refine ⟨st, fun more => ?_, batch_eq_nil hb⟩
      rw [Nat.add_right_comm, drainPeer, hb]
    | cons row rows =>
      have hmem : ∀ r ∈ row :: rows, r ∈ st.table.pendingFor peer := by
        intro r hr
        rw [← hb] at hr
        exact mem_batch hr
      obtain ⟨st', hst, hp⟩ := deliverRows_framable hT peer (fun r hr => hrows r (hmem r hr))
        { st with calls := st.calls + 1 }
      have hless : (st'.table.pendingFor peer).length < (st.table.pendingFor peer).length := by
        rw [hp]
        refine List.length_filter_lt_length_iff_exists.mpr ⟨row, hmem row (List.mem_cons_self ..), ?_⟩
        simp
      have hrest : ∀ r ∈ st'.table.pendingFor peer, Framable r := by
        intro r hr
        rw [hp] at hr
        exact hrows r (List.mem_filter.mp hr).1
      obtain ⟨st'', hrun, hnone⟩ := ih st' (by omega) hrest
      refine ⟨st'', fun more => ?_, hnone⟩
      rw [Nat.add_right_comm, drainPeer, hb]
      simp only [hst]
      exact hrun more

variable (T) in
lemma deliverRow_table (st : State) (row : MessageRow) :
    (deliverRow T st row).1.table = st.table ∨ Framable row ∧ ∃ now, (deliverRow T st row).1.table =
      st.table.outboxMarkDelivered row.sender row.channelId row.seq now := by
  have hwrite : ∀ st : State, (writeRow T st row).1.table = st.table ∨ Framable row ∧
      ∃ now, (writeRow T st row).1.table =
        st.table.outboxMarkDelivered row.sender row.channelId row.seq now := by
    intro st
    by_cases hr : Framable row
    · rw [writeRow]
      split
      · exact Or.inl rfl
      · split
        · exact Or.inl rfl
        · exact Or.inr ⟨hr, _, rfl⟩
    · rw [writeRow_too_large st hr]
      exact Or.inl rfl
  rw [deliverRow]
  split
  · exact hwrite st
  · split
    · exact Or.inl rfl
    · exact hwrite _

lemma deliverRows_keeps {peer : NodeId} {r : MessageRow} (hr : ¬ Framable r)
    {rows : List MessageRow} (hrows : ∀ row ∈ rows, row.key = r.key → row = r) (st : State)
    (hpending : r ∈ st.table.pendingFor peer) :
    r ∈ (deliverRows T st rows).1.table.pendingFor peer := by
  induction rows generalizing st with
  | nil => exact hpending
  | cons row rows ih =>
    have hnext : r ∈ (deliverRow T st row).1.table.pendingFor peer := by
      rcases deliverRow_table T st row with h | ⟨hf, now, h⟩
      · rw [h]
        exact hpending
      · rw [h, MessageTable.pendingFor_outboxMarkDelivered, List.mem_filter, decide_eq_true_eq]
        refine ⟨hpending, fun hk => hr ?_⟩
        rwa [← hrows row (List.mem_cons_self ..) hk.symm]
    rw [deliverRows]
    rcases hd : deliverRow T st row with ⟨st', res⟩
    rw [hd] at hnext
    cases res with
    | error e => exact hnext
    | ok => exact ih (fun row' h => hrows row' (List.mem_cons_of_mem _ h)) st' hnext

lemma drainPeer_keeps {peer : NodeId} {r : MessageRow} (hr : ¬ Framable r) {fuel : ℕ}
    {st st' : State} {res : Except DrainError Unit} (h : drainPeer T peer fuel st = some (st', res))
    (hpending : r ∈ st.table.pendingFor peer) : r ∈ st'.table.pendingFor peer := by
  induction fuel generalizing st with
  | zero => cases h
  | succ fuel ih =>
    rw [drainPeer] at h
    cases hb : batch T st peer with
    | nil =>
      rw [hb] at h
      obtain ⟨rfl, _⟩ := Prod.mk.inj (Option.some.inj h)
      exact hpending
    | cons row rows =>
      have hrows : ∀ row' ∈ row :: rows, row'.key = r.key → row' = r := by
        intro row' hrow' hk
        rw [← hb] at hrow'
        have hmem := List.mem_of_mem_filter (mem_batch hrow')
        exact st.table.eq_of_key hmem (List.mem_of_mem_filter hpending) hk
      have hnext := deliverRows_keeps (T := T) hr hrows { st with calls := st.calls + 1 } hpending
      rw [hb] at h
      rcases hd : deliverRows T { st with calls := st.calls + 1 } (row :: rows) with ⟨mid, res'⟩
      rw [hd] at hnext
      simp only [hd] at h
      cases res' with
      | error e =>
        obtain ⟨rfl, _⟩ := Prod.mk.inj (Option.some.inj h)
        exact hnext
      | ok => exact ih h hnext

lemma framable_of_drained {peer : NodeId} {st : State} (h : Drained T peer st) :
    ∀ r ∈ st.table.pendingFor peer, Framable r := by
  obtain ⟨n, st', hrun, hnone⟩ := h
  intro r hr
  by_contra hf
  have hleft := drainPeer_keeps hf (hrun n le_rfl) hr
  rw [hnone] at hleft
  cases hleft

theorem drained_iff_framable (T : Transport) (hT : T.Healthy) (peer : NodeId) (st : State) :
    Drained T peer st ↔ ∀ r ∈ st.table.pendingFor peer, Framable r := by
  refine ⟨framable_of_drained, fun hrows => ?_⟩
  obtain ⟨st', hrun, hnone⟩ := drainPeer_framable hT peer _ st (Nat.lt_succ_self _) hrows
  refine ⟨(st.table.pendingFor peer).length + 1, st', fun fuel hfuel => ?_, hnone⟩
  obtain ⟨more, rfl⟩ := Nat.exists_eq_add_of_le hfuel
  exact hrun more

def steady : Transport where
  order _ := orderBy MessageTable.oldestFirst
  ordered _ := orderBy_orderedBy _
  openStream _ _ := .ok ()
  write _ _ _ := .ok ()
  nowMs _ := 7

lemma steady_healthy : steady.Healthy := ⟨fun _ _ => rfl, fun _ _ _ => rfl⟩

def greeting : MessageRow :=
  ⟨Sample.node 1, Sample.channelId "chat", 1, .out, "chat", Sample.node 2, [104, 105], 5, none⟩

theorem drained_iff_framable_greeting :
    Drained steady (Sample.node 2) ⟨⟨[greeting], List.nodup_singleton _⟩, [], [], 0⟩ :=
  (drained_iff_framable steady steady_healthy (Sample.node 2) _).mpr (by decide +kernel)

def bob : PeerTable := ⟨⟨[⟨Sample.node 2, "bob", 0, none, none⟩], by decide⟩, by decide⟩

@[irreducible] def flood : Bytes := List.replicate 9000000 255

lemma length_flood : flood.length = 9000000 := by
  rw [flood, List.length_replicate]

lemma countP_flood : flood.countP (fun b => 24 ≤ b) = 9000000 := by
  rw [flood, List.countP_replicate]
  simp

lemma length_send_bob (payload : Bytes) :
    (SendRequest.cbor ⟨.name "bob", "chat", payload⟩).length =
      43 + (Cbor.headLength payload.length + (payload.length + payload.countP fun b => 24 ≤ b)) := by
  have hpeer : (selectorCbor (.name "bob")).length = 10 := by decide
  have hchannel : (Cbor.text "chat").length = 5 := by decide
  have hnames : (Cbor.text "Send").length = 5 ∧ (Cbor.text "peer").length = 5 ∧
      (Cbor.text "channel").length = 8 ∧ (Cbor.text "payload").length = 8 := by decide
  have hhead : Cbor.headLength 3 = 1 := by decide
  rw [SendRequest.cbor, Cbor.length_variant, Cbor.length_record]
  simp only [List.map_cons, List.map_nil, List.sum_cons, List.sum_nil, List.length_cons,
    List.length_nil, Nat.reduceAdd, hnames, hpeer, hchannel, hhead, Cbor.length_byteArray]
  omega

lemma flood_accepted :
    ¬ maxIpcFrameBytes < (SendRequest.cbor ⟨.name "bob", "chat", flood⟩).length := by
  have hhead := Cbor.headLength_le 9000000
  rw [length_send_bob, length_flood, countP_flood, maxIpcFrameBytes]
  omega

lemma large_send_blocks {payload : Bytes}
    (hipc : ¬ maxIpcFrameBytes < (SendRequest.cbor ⟨.name "bob", "chat", payload⟩).length)
    (hframe : maxFrameBytes < payload.length + payload.countP fun b => 24 ≤ b) : ∃ d : Daemon,
    Run (Fires (accept Sample.channelId (Sample.node 1))) ⟨bob, Table.empty⟩
      [.send ⟨.name "bob", "chat", payload⟩ 5] d ∧
    ¬ Drained steady (Sample.node 2) ⟨d.table, [], [], 0⟩ := by
  have hseq : MessageTable.nextSeq Table.empty (Sample.node 1) (Sample.channelId "chat") = .ok 1 := by
    decide +kernel
  have hpeer : bob.peerGet (.name "bob") = some ⟨Sample.node 2, "bob", 0, none, none⟩ := by
    decide +kernel
  obtain ⟨table, henq⟩ := MessageTable.outboxEnqueue_of_nextSeq hseq (Sample.node 2) payload 5
  have hstep : accept Sample.channelId (Sample.node 1) ⟨bob, Table.empty⟩
      (.send ⟨.name "bob", "chat", payload⟩ 5) = some ⟨bob, table⟩ := by
    simp only [accept, if_neg hipc, Daemon.Trust.selToBytes, hpeer, henq]
  refine ⟨⟨bob, table⟩, Run.single hstep, fun hdrained => ?_⟩
  have hframable := framable_of_drained hdrained _ (MessageTable.outboxEnqueue_pending henq)
  simp only [Framable, frameLength] at hframable
  omega

lemma flood_unframable : maxFrameBytes < flood.length + flood.countP fun b => 24 ≤ b := by
  rw [length_flood, countP_flood, maxFrameBytes]
  omega

theorem accepted_send_blocks_outbox : steady.Healthy ∧ ∃ d : Daemon,
    Run (Fires (accept Sample.channelId (Sample.node 1))) ⟨bob, Table.empty⟩
      [.send ⟨.name "bob", "chat", flood⟩ 5] d ∧
    ¬ Drained steady (Sample.node 2) ⟨d.table, [], [], 0⟩ :=
  ⟨steady_healthy, large_send_blocks flood_accepted flood_unframable⟩

end WalkieTalkie.Delivery.Drain
