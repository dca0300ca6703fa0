import WalkieTalkie.Lib.Numbering
import WalkieTalkie.Lib.Runs
import WalkieTalkie.Lib.Signed
import WalkieTalkie.Sample
import WalkieTalkie.Store.Columns

/-! The sequence numbers of outbound messages beside the inbound ones. Both logs are kept in one table
under one primary key, and a new number is one more than the greatest of its sender and channel; the
numbers of inbound messages are whatever the peers choose to send. -/

namespace WalkieTalkie.Store.Sequences

open Proto Lib Lib.Runs Lib.Signed Columns

abbrev Key := NodeId × ChannelId × UInt64

structure State where
  table : Messages
  enqueued : List MessageRow
  recorded : List (Key × Bool)

def initial : State := ⟨Table.empty, [], []⟩

inductive Call
  | outboxEnqueue (peerNodeid : NodeId) (channel : String) (payload : Bytes) (now : UInt64)
  | outboxMarkDelivered (sender : NodeId) (cid : ChannelId) (seq now : UInt64)
  | inboxRecord (sender : NodeId) (channel : String) (seq : UInt64) (payload : Bytes)
      (tsMs now : UInt64)
deriving DecidableEq

structure Attempt where
  call : Call
  works : Bool

def Call.side : Call → Direction
  | .inboxRecord .. => .inbound
  | _ => .out

def Foreign (localNode : NodeId) : Call → Prop
  | .inboxRecord sender .. => sender ≠ localNode
  | _ => True

instance (localNode : NodeId) (c : Call) : Decidable (Foreign localNode c) := by
  cases c with
  | outboxEnqueue peer channel payload now => exact isTrue trivial
  | outboxMarkDelivered sender cid seq now => exact isTrue trivial
  | inboxRecord sender channel seq payload tsMs now =>
    exact inferInstanceAs (Decidable (sender ≠ localNode))

section

variable (channelId : String → ChannelId) (localNode : NodeId)

def perform (s : State) : Call → State
  | .outboxEnqueue peer channel payload now =>
    match outboxEnqueue s.table channelId localNode peer channel payload now with
    | .error _ => s
    | .ok (table, row) => { s with table := table, enqueued := s.enqueued ++ [row] }
  | .outboxMarkDelivered sender cid seq now =>
    { s with table := outboxMarkDelivered s.table sender cid seq now }
  | .inboxRecord sender channel seq payload tsMs now =>
    let answer := inboxRecord s.table channelId sender channel seq payload tsMs now
    { s with
      table := answer.1
      recorded := s.recorded ++ [((sender, channelId channel, seq), answer.2)] }

/-- A call that fails is rolled back. -/
def attempt (s : State) (a : Attempt) : State :=
  if a.works then perform channelId localNode s a.call else s

def step (s : State) (a : Attempt) : Option State := some (attempt channelId localNode s a)

end

def sideRows (d : Direction) (m : Messages) : List MessageColumns :=
  m.rows.filter fun c => c.direction = directionColumn d

def sides (t : MessageTable) : List (Direction × Key) :=
  t.rows.map fun r => (r.direction, r.key)

def numbersOn (cid : ChannelId) (keys : List Key) : List ℤ :=
  (keys.filter fun k => k.2.1 = cid).map fun k => k.2.2.toInt64.toInt

variable {channelId : String → ChannelId} {localNode : NodeId}

lemma sides_outboxMarkDelivered (t : MessageTable) (sender : NodeId) (cid : ChannelId)
    (seq now : UInt64) : sides (t.outboxMarkDelivered sender cid seq now) = sides t := by
  simp only [sides, MessageTable.outboxMarkDelivered, Table.update, List.map_map]
  refine List.map_congr_left fun r _ => ?_
  dsimp only [Function.comp_apply]
  split
  · rfl
  · rfl

lemma sides_outboxEnqueue {t t' : MessageTable} {peer : NodeId} {channel : String}
    {payload : Bytes} {now : UInt64} {row : MessageRow}
    (h : t.outboxEnqueue channelId localNode peer channel payload now = .ok (t', row)) :
    row.key = (localNode, channelId channel, row.seq) ∧
      sides t' = sides t ++ [(.out, row.key)] := by
  obtain ⟨hrows, seq, rfl⟩ := MessageTable.outboxEnqueue_ok h
  refine ⟨rfl, ?_⟩
  rw [sides, hrows, List.map_append]
  rfl

lemma has_sides {t : MessageTable} {k : Key} : t.has k = true ↔ ∃ d, (d, k) ∈ sides t := by
  rw [Table.has_eq_true]
  constructor
  · rintro ⟨r, hr, rfl⟩
    exact ⟨r.direction, List.mem_map_of_mem hr⟩
  · rintro ⟨d, hd⟩
    obtain ⟨r, hr, hpair⟩ := List.mem_map.mp hd
    exact ⟨r, hr, (Prod.mk.inj hpair).2⟩

lemma numbersOn_snoc (cid : ChannelId) (keys : List Key) (k : Key) :
    numbersOn cid (keys ++ [k]) =
      if k.2.1 = cid then numbersOn cid keys ++ [k.2.2.toInt64.toInt] else numbersOn cid keys := by
  rw [numbersOn, List.filter_append, List.map_append]
  split
  · next h => simp [numbersOn, h]
  · next h => simp [numbersOn, h]

structure Kept (localNode : NodeId) (s : State) (t : MessageTable) : Prop where
  table : s.table = written t
  foreign : ∀ p ∈ sides t, p.1 = .out ↔ p.2.1 = localNode
  outbox : ((sides t).filter fun p => p.1 = .out).map Prod.snd = s.enqueued.map MessageRow.key
  dense : ∀ cid, Dense (numbersOn cid (s.enqueued.map MessageRow.key))
  inbox : ∀ k, (.inbound, k) ∈ sides t ↔ k ∈ s.recorded.map Prod.fst
  answers : FirstOnly s.recorded

section

variable {s : State} {t : MessageTable}

lemma kept_initial : Kept localNode initial Table.empty where
  table := coding.table_empty.symm
  foreign p h := by cases h
  outbox := rfl
  dense cid := dense_nil
  inbox k := by simp [sides, initial]
  answers := firstOnly_nil

/-- The numbers that `MAX(id_seq)` looks at are those of the enqueued messages. -/
lemma Kept.seqsOf (h : Kept localNode s t) (cid : ChannelId) :
    t.seqsOf localNode cid = numbersOn cid (s.enqueued.map MessageRow.key) := by
  have hsides : t.seqsOf localNode cid =
      ((sides t).filter fun p => p.2.1 = localNode && p.2.2.1 = cid).map
        fun p => p.2.2.2.toInt64.toInt := by
    rw [sides, List.filter_map, List.map_map]
    rfl
  rw [hsides, ← h.outbox, numbersOn, List.filter_map, List.map_map, List.filter_filter]
  refine congrArg _ (List.filter_congr fun p hp => ?_)
  have hlocal := h.foreign p hp
  simp only [Function.comp_apply, hlocal, Bool.and_comm]

lemma Kept.nextSeq (h : Kept localNode s t) {cid : ChannelId}
    {seq : UInt64} (hseq : t.nextSeq localNode cid = .ok seq) :
    seq.toInt64.toInt = (numbersOn cid (s.enqueued.map MessageRow.key)).length + 1 := by
  simp only [MessageTable.nextSeq, h.seqsOf, (h.dense cid).max] at hseq
  split at hseq
  · next hle =>
    obtain rfl := Except.ok.inj hseq
    rw [Int64.toInt_maxValue] at hle
    rw [Int64.toInt64_toUInt64, Int64.toInt_ofInt_of_le (by omega) (by omega)]
  · cases hseq

lemma Kept.outboxEnqueue {t' : MessageTable} {peer : NodeId} {channel : String}
    {payload : Bytes} {now : UInt64} {row : MessageRow} (h : Kept localNode s t)
    (henqueue : t.outboxEnqueue channelId localNode peer channel payload now = .ok (t', row)) :
    Kept localNode ⟨written t', s.enqueued ++ [row], s.recorded⟩ t' := by
  obtain ⟨hkey, hsides⟩ := sides_outboxEnqueue henqueue
  have hseq := h.nextSeq (MessageTable.outboxEnqueue_seq henqueue)
  refine ⟨rfl, ?_, ?_, fun cid => ?_, fun k => ?_, h.answers⟩
  · rw [hsides]
    exact forall_mem_snoc h.foreign (by simp [hkey])
  · rw [hsides, List.filter_append, List.map_append, h.outbox, List.map_append]
    rfl
  · rw [List.map_append, List.map_singleton, numbersOn_snoc, hkey]
    split
    · next hcid =>
      subst hcid
      rw [hseq]
      exact (h.dense _).snoc
    · exact h.dense cid
  · rw [hsides, List.mem_append, ← h.inbox]
    simp

lemma Kept.outboxMarkDelivered (h : Kept localNode s t)
    (sender : NodeId) (cid : ChannelId) (seq now : UInt64) :
    Kept localNode ⟨written (t.outboxMarkDelivered sender cid seq now), s.enqueued, s.recorded⟩
      (t.outboxMarkDelivered sender cid seq now) := by
  have hsides := sides_outboxMarkDelivered t sender cid seq now
  refine ⟨rfl, ?_, ?_, h.dense, ?_, h.answers⟩
  · rw [hsides]
    exact h.foreign
  · rw [hsides]
    exact h.outbox
  · rw [hsides]
    exact h.inbox

lemma Kept.has (h : Kept localNode s t) {k : Key}
    (hne : k.1 ≠ localNode) : t.has k = true ↔ k ∈ s.recorded.map Prod.fst := by
  rw [has_sides, ← h.inbox]
  constructor
  · rintro ⟨d, hd⟩
    cases d with
    | out => exact absurd ((h.foreign _ hd).mp rfl) hne
    | inbound => exact hd
  · intro hd
    exact ⟨.inbound, hd⟩

lemma Kept.inboxRecord (h : Kept localNode s t) {sender : NodeId}
    (hne : sender ≠ localNode) (channel : String) (frame : MessageFrame) (now : UInt64) :
    Kept localNode ⟨written (t.inboxRecord channelId sender channel frame now).1, s.enqueued,
      s.recorded ++ [((sender, channelId channel, frame.seq),
        (t.inboxRecord channelId sender channel frame now).2)]⟩
      (t.inboxRecord channelId sender channel frame now).1 := by
  let row := MessageTable.inboundRow channelId sender channel frame now
  have hknown : t.has row.key = true ↔ row.key ∈ s.recorded.map Prod.fst := h.has hne
  rw [MessageTable.inboxRecord]
  cases hhas : t.has row.key with
  | true =>
    have hmem := hknown.mp hhas
    rw [Table.insertOrIgnore_of_has hhas]
    refine ⟨rfl, h.foreign, h.outbox, h.dense, fun k => ?_, h.answers.snoc ?_⟩
    · rw [h.inbox, List.map_append, List.mem_append]
      refine ⟨Or.inl, fun hk => hk.elim id fun hk => ?_⟩
      rw [List.mem_singleton.mp hk]
      exact hmem
    · exact ⟨fun hf => absurd hf Bool.false_ne_true, fun hn => absurd hmem hn⟩
  | false =>
    have hnew : row.key ∉ s.recorded.map Prod.fst := by
      rw [← hknown, hhas]
      exact Bool.false_ne_true
    obtain ⟨hrows, hanswer⟩ := Table.insertOrIgnore_of_not_has hhas
    have hsides : sides (t.insertOrIgnore row).1 = sides t ++ [(.inbound, row.key)] := by
      rw [sides, hrows, List.map_append]
      rfl
    refine ⟨rfl, ?_, ?_, h.dense, fun k => ?_, h.answers.snoc ?_⟩
    · rw [hsides]
      refine forall_mem_snoc h.foreign ?_
      exact ⟨fun hout => Direction.noConfusion hout, fun hlocal => absurd hlocal hne⟩
    · rw [hsides, List.filter_append, List.map_append, h.outbox]
      simp
    · rw [hsides, List.mem_append, h.inbox, List.map_append, List.mem_append, List.mem_singleton,
        List.map_singleton, List.mem_singleton, Prod.mk.injEq]
      exact or_congr_right (and_iff_right rfl)
    · exact ⟨fun _ => hnew, fun _ => hanswer⟩

lemma Kept.perform (h : Kept localNode s t) {c : Call}
    (hc : Foreign localNode c) : ∃ t', Kept localNode (perform channelId localNode s c) t' := by
  cases c with
  | outboxEnqueue peer channel payload now =>
    simp only [Sequences.perform, h.table, outboxEnqueue_written]
    cases henqueue : t.outboxEnqueue channelId localNode peer channel payload now with
    | error e => exact ⟨t, h⟩
    | ok p =>
      obtain ⟨t', row⟩ := p
      exact ⟨t', h.outboxEnqueue henqueue⟩
  | outboxMarkDelivered sender cid seq now =>
    simp only [Sequences.perform, h.table, outboxMarkDelivered_written]
    exact ⟨_, h.outboxMarkDelivered sender cid seq now⟩
  | inboxRecord sender channel seq payload tsMs now =>
    simp only [Sequences.perform, h.table, inboxRecord_written]
    exact ⟨_, h.inboxRecord hc channel ⟨seq, tsMs, payload⟩ now⟩

lemma Kept.attempt (h : Kept localNode s t) {a : Attempt}
    (hc : Foreign localNode a.call) : ∃ t', Kept localNode (attempt channelId localNode s a) t' := by
  rw [Sequences.attempt]
  split
  · exact h.perform hc
  · exact ⟨t, h⟩

lemma kept_reached {attempts : List Attempt} {st : State}
    (hrun : Run (Guarded (fun _ a => Foreign localNode a.call) (Fires (step channelId localNode)))
      initial attempts st) : ∃ t, Kept localNode st t := by
  refine hrun.invariant (I := fun s => ∃ t, Kept localNode s t) ?_ ⟨Table.empty, kept_initial⟩
  rintro s a s' ⟨t, h⟩ ⟨hc, hstep⟩
  obtain rfl := Option.some.inj hstep
  exact h.attempt hc

lemma Kept.seq (h : Kept localNode s t) {cid : ChannelId} {k : ℕ}
    {row : MessageRow} (hrow : (s.enqueued.filter fun r => r.channelId = cid)[k]? = some row) :
    row.seq.toNat = k + 1 := by
  have hnumbers : numbersOn cid (s.enqueued.map MessageRow.key) =
      (s.enqueued.filter fun r => r.channelId = cid).map fun r => r.seq.toInt64.toInt := by
    rw [numbersOn, List.filter_map, List.map_map]
    rfl
  have hdense := h.dense cid k row.seq.toInt64.toInt (by
    rw [hnumbers, List.getElem?_map, hrow]
    rfl)
  have hlt := row.seq.toNat_lt
  rw [toInt_toInt64] at hdense
  split at hdense
  · omega
  · omega

end

lemma outboxEnqueue_rows {m m' : Messages} {sender peer : NodeId} {channel : String}
    {payload : Bytes} {now : UInt64} {row : MessageRow}
    (h : outboxEnqueue m channelId sender peer channel payload now = .ok (m', row)) :
    ∃ c, c.direction = directionColumn .out ∧ m'.rows = m.rows ++ [c] := by
  rw [outboxEnqueue] at h
  split at h
  · cases h
  · split at h
    · cases h
    · next hinsert =>
      obtain ⟨rfl, rfl⟩ := Prod.mk.inj (Except.ok.inj h)
      exact ⟨_, rfl, Table.insert_rows hinsert⟩

lemma sideRows_snoc {m m' : Messages} {d d' : Direction} {c : MessageColumns} (hne : d ≠ d')
    (hc : c.direction = directionColumn d') (hrows : m'.rows = m.rows ++ [c]) :
    sideRows d m' = sideRows d m := by
  have hother : c.direction ≠ directionColumn d := by
    intro hsame
    have hread := congrArg directionFromI64 (hsame.symm.trans hc)
    rw [directionFromI64_directionColumn, directionFromI64_directionColumn] at hread
    exact hne (Option.some.inj hread)
  rw [sideRows, hrows, List.filter_append, sideRows]
  simp [hother]

lemma sideRows_outboxMarkDelivered (m : Messages) (sender : NodeId) (cid : ChannelId)
    (seq now : UInt64) :
    sideRows .inbound (outboxMarkDelivered m sender cid seq now) = sideRows .inbound m := by
  rw [sideRows, sideRows, outboxMarkDelivered, Table.filter_update_other]
  · intro c hc
    simp only [Bool.and_eq_true, decide_eq_true_eq] at hc
    simp [hc.2, directionColumn]
  · intro c hc
    simp only [Bool.and_eq_true, decide_eq_true_eq] at hc
    simp [MessageColumns.deliveredAt, hc.2, directionColumn]

lemma sideRows_perform (s : State) {c : Call} {d : Direction} (hd : d ≠ c.side) :
    sideRows d (perform channelId localNode s c).table = sideRows d s.table := by
  cases c with
  | outboxEnqueue peer channel payload now =>
    rw [perform]
    split
    · rfl
    · next m row henqueue =>
      obtain ⟨c, hc, hrows⟩ := outboxEnqueue_rows henqueue
      exact sideRows_snoc hd hc hrows
  | outboxMarkDelivered sender cid seq now =>
    cases d with
    | out => exact absurd rfl hd
    | inbound => exact sideRows_outboxMarkDelivered s.table sender cid seq now
  | inboxRecord sender channel seq payload tsMs now =>
    dsimp only [perform, inboxRecord]
    cases hhas : s.table.has (sender, channelId channel, seq.toInt64) with
    | true => rw [Table.insertOrIgnore_of_has hhas]
    | false => exact sideRows_snoc hd rfl (Table.insertOrIgnore_of_not_has hhas).1

lemma sideRows_attempt (s : State) {a : Attempt} {d : Direction} (hd : d ≠ a.call.side) :
    sideRows d (attempt channelId localNode s a).table = sideRows d s.table := by
  rw [attempt]
  split
  · exact sideRows_perform s hd
  · rfl

/-- The k-th message enqueued on a channel has number k, whoever it is for and whatever numbers the
peers send; a message from a peer is new exactly when its number was not recorded before. -/
theorem outbound_numbers_dense {attempts : List Attempt} {st : State}
    (hrun : Run (Guarded (fun _ a => Foreign localNode a.call) (Fires (step channelId localNode)))
      initial attempts st) :
    (∀ (cid : ChannelId) (k : ℕ) (row : MessageRow),
      (st.enqueued.filter fun r => r.channelId = cid)[k]? = some row → row.seq.toNat = k + 1) ∧
    (∀ (before : List (Key × Bool)) (sender : NodeId) (cid : ChannelId) (seq : UInt64)
      (answer : Bool) (after : List (Key × Bool)),
      st.recorded = before ++ ((sender, cid, seq), answer) :: after →
        (answer = true ↔ (sender, cid, seq) ∉ before.map Prod.fst)) ∧
    ∀ (a : Attempt) (d : Direction), d ≠ a.call.side →
      sideRows d (attempt channelId localNode st a).table = sideRows d st.table := by
  obtain ⟨t, hkept⟩ := kept_reached hrun
  refine ⟨fun cid k row hrow => hkept.seq hrow, ?_, fun a d hd => sideRows_attempt st hd⟩
  intro before sender cid seq answer after hsplit
  exact hkept.answers before (sender, cid, seq) answer after hsplit

def interleaved : List Attempt :=
  [⟨.outboxEnqueue (Sample.node 2) "dev" [104, 105] 1000, true⟩,
    ⟨.inboxRecord (Sample.node 2) "dev" 9223372036854775808 [104, 105] 2000 1001, true⟩,
    ⟨.outboxEnqueue (Sample.node 2) "dev" [104, 105] 1002, false⟩,
    ⟨.inboxRecord (Sample.node 2) "dev" 18446744073709551615 [104, 105] 2001 1003, true⟩,
    ⟨.outboxMarkDelivered (Sample.node 1) (Sample.channelId "dev") 1 1004, true⟩,
    ⟨.inboxRecord (Sample.node 2) "dev" 9223372036854775808 [104, 105] 2000 1005, true⟩,
    ⟨.outboxEnqueue (Sample.node 3) "dev" [104, 105] 1006, true⟩]

theorem outbound_numbers_dense_interleaved : ∃ st,
    Run (Fires (step Sample.channelId (Sample.node 1))) initial interleaved st ∧
    st.enqueued.map (fun r => (r.peerNodeid, r.seq)) = [(Sample.node 2, 1), (Sample.node 3, 2)] ∧
    st.recorded.map Prod.snd = [true, true, false] ∧
    (∀ (cid : ChannelId) (k : ℕ) (row : MessageRow),
      (st.enqueued.filter fun r => r.channelId = cid)[k]? = some row → row.seq.toNat = k + 1) ∧
    ∀ (a : Attempt) (d : Direction), d ≠ a.call.side →
      sideRows d (attempt Sample.channelId (Sample.node 1) st a).table = sideRows d st.table := by
  have heval : (execute (restrict (fun _ a => Foreign (Sample.node 1) a.call)
      (step Sample.channelId (Sample.node 1))) initial interleaved).map
      (fun st => (st.enqueued.map fun r => (r.peerNodeid, r.seq), st.recorded.map Prod.snd)) =
      some ([(Sample.node 2, 1), (Sample.node 3, 2)], [true, true, false]) := by
    decide +kernel
  obtain ⟨st, hst, hfacts⟩ := Option.map_eq_some_iff.mp heval
  obtain ⟨henqueued, hrecorded⟩ := Prod.mk.inj hfacts
  have hrun := execute_restrict_run hst
  have hdense := outbound_numbers_dense hrun
  exact ⟨st, hrun.forget, henqueued, hrecorded, hdense.1, hdense.2.2⟩

end WalkieTalkie.Store.Sequences
