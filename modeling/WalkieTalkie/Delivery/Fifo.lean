import WalkieTalkie.Delivery.ExactlyOnce

/-! The order of one sender's messages on one channel. The outbox and the inbox are both read by
time stamp alone, so rows keep the order of their numbers as long as every row is stamped later
than the rows to the same peer and channel before it and no row for another peer comes in among
them. Numbers and stamps are compared as the signed integers that are stored. -/

namespace WalkieTalkie.Delivery.Fifo

open Proto Store Lib Lib.Runs ExactlyOnce

variable {S : Setting} {c : String} {st st' : State} {l : Label}

structure Earlier (o r : MessageRow) : Prop where
  peer : o.peerNodeid = r.peerNodeid
  channel : o.channel = r.channel
  seq : o.seq.toInt64 < r.seq.toInt64

def LaterStamp (S : Setting) (c : String) (st : State) : Label → Prop
  | .send sel channel _ now => channel = c →
    ∀ peer, st.senderTrust.peers.peerGet (Daemon.Trust.selToBytes sel) = some peer →
      peer.nodeid = S.receiver → ∀ o ∈ st.log, o.peerNodeid = S.receiver → o.channel = c →
        o.enqueuedAtMs.toInt64 < now.toInt64
  | _ => True

/-- What the channel needs: later stamps for the receiver, and no streams for others to it. -/
def KeepsOrder (S : Setting) (c : String) (st : State) (l : Label) : Prop :=
  LaterStamp S c st l ∧ OpensAddressed S c st l

/-- A row for the receiver on the channel. -/
def Ours (S : Setting) (c : String) (r : MessageRow) : Prop :=
  r.peerNodeid = S.receiver ∧ r.channel = c

def InTurn (S : Setting) (c : String) (log : List MessageRow) (streams : List Stream)
    (rows : List MessageRow) : Prop :=
  ∀ before r after, rows = before ++ r :: after → Ours S c r →
    ∀ o ∈ log, Earlier o r → OnWire S streams o ∨ ∃ o' ∈ before, o'.undelivered = o.undelivered

structure Ordered (S : Setting) (c : String) (st : State) : Prop where
  stamped : ∀ o ∈ st.log, ∀ r ∈ st.log, Ours S c r → Earlier o r →
    o.enqueuedAtMs.toInt64 < r.enqueuedAtMs.toInt64
  tasks : ∀ t ∈ st.tasks, InTurn S c st.log st.streams (Phase.rows t.phase)
  written : ∀ o ∈ st.log, ∀ r ∈ st.log, Ours S c r → Earlier o r →
    OnWire S st.streams r → OnWire S st.streams o

def Repeats (before after : List Stream) : Prop :=
  ∀ s ∈ after, ∀ body ∈ s.bodies, ∃ s' ∈ before, s'.peer = s.peer ∧ s'.channel = s.channel ∧
    body ∈ s'.bodies

lemma Repeats.refl (streams : List Stream) : Repeats streams streams :=
  fun s hs _ hb => ⟨s, hs, rfl, rfl, hb⟩

lemma repeats_append (streams : List Stream) {new : Stream} (hnew : new.bodies = []) :
    Repeats streams (streams ++ [new]) := by
  intro s hs body hb
  rcases List.mem_append.mp hs with hs | hs
  · exact ⟨s, hs, rfl, rfl, hb⟩
  · obtain rfl := List.mem_singleton.mp hs
    rw [hnew] at hb
    cases hb

lemma repeats_set {streams : List Stream} {i : ℕ} {s s' : Stream} (h : streams[i]? = some s)
    (hp : s'.peer = s.peer) (hc : s'.channel = s.channel) (hb : s'.bodies = s.bodies) :
    Repeats streams (streams.set i s') := by
  intro x hx body hbody
  rcases List.mem_or_eq_of_mem_set hx with hx | rfl
  · exact ⟨x, hx, rfl, rfl, hbody⟩
  · exact ⟨s, List.mem_of_getElem? h, hp.symm, hc.symm, hb ▸ hbody⟩

lemma Repeats.onWire {before after : List Stream} (h : Repeats before after) {r : MessageRow}
    (hr : OnWire S after r) : OnWire S before r := by
  obtain ⟨s, hs, hp, hc, hb, hl⟩ := hr
  obtain ⟨s', hs', hp', hc', hb'⟩ := h s hs _ hb
  exact ⟨s', hs', hp'.trans hp, hc'.trans hc, hb', hl⟩

lemma inTurn_nil (log : List MessageRow) (streams : List Stream) : InTurn S c log streams [] := by
  intro before r after h
  simp at h

lemma InTurn.mono {log : List MessageRow} {before after : List Stream} {rows : List MessageRow}
    (hg : Grows before after) (h : InTurn S c log before rows) : InTurn S c log after rows := by
  intro front r back hrows hpeer o ho he
  rcases h front r back hrows hpeer o ho he with hw | hf
  · exact Or.inl (hw.mono hg)
  · exact Or.inr hf

lemma InTurn.tail {log : List MessageRow} {streams : List Stream} {row : MessageRow}
    {rest : List MessageRow} (h : InTurn S c log streams (row :: rest))
    (hw : OnWire S streams row) : InTurn S c log streams rest := by
  intro front r back hrows hpeer o ho he
  rcases h (row :: front) r back (by rw [hrows]; rfl) hpeer o ho he with ho | ⟨o', hmem, heq⟩
  · exact Or.inl ho
  · rcases List.mem_cons.mp hmem with rfl | hmem
    · exact Or.inl (onWire_undelivered heq hw)
    · exact Or.inr ⟨o', hmem, heq⟩

lemma InTurn.head {log : List MessageRow} {streams : List Stream} {row : MessageRow}
    {rest : List MessageRow} (h : InTurn S c log streams (row :: rest))
    (hours : Ours S c row) {o : MessageRow} (ho : o ∈ log) (he : Earlier o row) :
    OnWire S streams o := by
  rcases h [] row rest rfl hours o ho he with hw | ⟨_, hmem, _⟩
  · exact hw
  · cases hmem

lemma Ordered.keep (h : Ordered S c st) (hlog : st'.log = st.log)
    (hg : Grows st.streams st'.streams) (hr : Repeats st.streams st'.streams)
    (ht : ∀ t ∈ st'.tasks, Phase.rows t.phase = [] ∨
      ∃ t' ∈ st.tasks, Phase.rows t.phase = Phase.rows t'.phase) : Ordered S c st' where
  stamped := hlog ▸ h.stamped
  tasks t hmem := by
    rcases ht t hmem with hnil | ⟨t', hmem', heq⟩
    · rw [hnil]
      exact inTurn_nil _ _
    · rw [heq, hlog]
      exact (h.tasks t' hmem').mono hg
  written := by
    rw [hlog]
    intro o ho r hmem hpeer he hw
    exact (h.written o ho r hmem hpeer he (hr.onWire hw)).mono hg

lemma Ordered.sameTasks (h : Ordered S c st) (hlog : st'.log = st.log)
    (hg : Grows st.streams st'.streams) (hr : Repeats st.streams st'.streams)
    (ht : st'.tasks = st.tasks) : Ordered S c st' :=
  h.keep hlog hg hr fun t hmem => Or.inr ⟨t, ht ▸ hmem, rfl⟩

lemma Ordered.setTask (h : Ordered S c st) {k : ℕ} {t : Task}
    (ht : InTurn S c st.log st.streams (Phase.rows t.phase)) :
    Ordered S c { st with tasks := st.tasks.set k t } :=
  { h with tasks := forall_mem_set h.tasks ht }

lemma body_frame {r r' : MessageRow} (h : S.body r = S.body r') : r.frame = r'.frame := by
  have hd := congrArg S.frames.decode h
  rw [Setting.body, Setting.body, S.frames.decode_encode, S.frames.decode_encode] at hd
  exact Except.ok.inj hd

lemma onWire_log (hi : Invariant S st) {r : MessageRow} (h : OnWire S st.streams r) :
    ∃ o ∈ st.log, o.channel = r.channel ∧ o.frame = r.frame := by
  obtain ⟨s, hs, _, hc, hb, _⟩ := h
  obtain ⟨o, ho, _, hoc, hbody⟩ := hi.wired s hs _ hb
  exact ⟨o, ho, hoc.trans hc, body_frame hbody⟩

lemma enqueued_seq (hi : Invariant S st) {peer : NodeId} {channel : String} {payload : Bytes}
    {now : UInt64} {table : MessageTable} {row : MessageRow}
    (henq : st.senderTable.outboxEnqueue S.channelId S.sender peer channel payload now =
      .ok (table, row)) {o : MessageRow} (ho : o ∈ st.log) (hc : o.channel = channel) :
    o.seq.toInt64 < row.seq.toInt64 := by
  obtain ⟨o', ho', rfl⟩ := hi.exists_outbox ho
  obtain ⟨hsender, hcid⟩ := hi.log_rows _ ho
  obtain ⟨_, seq, rfl⟩ := MessageTable.outboxEnqueue_ok henq
  have hseq := MessageTable.outboxEnqueue_seq henq
  have hlt := MessageTable.seq_lt_nextSeq hseq (MessageTable.mem_outbox.mp ho').1 hsender
    (hcid.trans (congrArg S.channelId hc))
  exact Int64.lt_iff_toInt_lt.mpr hlt

lemma Ordered.send (h : Ordered S c st) (hi : Invariant S st) {sel : PeerSelector}
    {channel : String} {payload : Bytes} {now : UInt64} {peer : PeerRow} {table : MessageTable}
    {row : MessageRow}
    (hpeer : st.senderTrust.peers.peerGet (Daemon.Trust.selToBytes sel) = some peer)
    (henq : st.senderTable.outboxEnqueue S.channelId S.sender peer.nodeid channel payload now =
      .ok (table, row)) (hlater : LaterStamp S c st (.send sel channel payload now)) :
    Ordered S c { st with senderTable := table, log := st.log ++ [row] } := by
  have hseq := fun o ho => @enqueued_seq S st hi _ _ _ _ _ _ henq o ho
  obtain ⟨_, seq, rfl⟩ := MessageTable.outboxEnqueue_ok henq
  refine ⟨?_, ?_, ?_⟩
  · intro o ho r hr hto he
    rcases List.mem_append.mp hr with hr | hr <;> rcases List.mem_append.mp ho with ho | ho
    · exact h.stamped o ho r hr hto he
    · obtain rfl := List.mem_singleton.mp ho
      exact (Int64.lt_asymm (hseq r hr he.channel.symm) he.seq).elim
    · obtain rfl := List.mem_singleton.mp hr
      exact hlater hto.2 peer hpeer hto.1 o ho (he.peer.trans hto.1) (he.channel.trans hto.2)
    · obtain rfl := List.mem_singleton.mp ho
      obtain rfl := List.mem_singleton.mp hr
      exact (Int64.lt_irrefl he.seq).elim
  · intro t ht front r back hrows hto o ho he
    rcases List.mem_append.mp ho with ho | ho
    · exact h.tasks t ht front r back hrows hto o ho he
    · obtain rfl := List.mem_singleton.mp ho
      have hr : r.undelivered ∈ st.log :=
        ((hi.tasks t ht).rows r (by rw [hrows]; simp)).1
      exact (Int64.lt_asymm (hseq _ hr he.channel.symm) he.seq).elim
  · intro o ho r hr hto he hw
    rcases List.mem_append.mp hr with hr | hr
    · rcases List.mem_append.mp ho with ho | ho
      · exact h.written o ho r hr hto he hw
      · obtain rfl := List.mem_singleton.mp ho
        exact (Int64.lt_asymm (hseq r hr he.channel.symm) he.seq).elim
    · obtain rfl := List.mem_singleton.mp hr
      obtain ⟨x, hx, hxc, hxf⟩ := onWire_log hi hw
      have hlt := hseq x hx hxc
      rw [show x.seq = seq from congrArg MessageFrame.seq hxf] at hlt
      exact (Int64.lt_irrefl hlt).elim

lemma Ordered.query (h : Ordered S c st) (hi : Invariant S st) {k : ℕ} {task : Task}
    {rows : List MessageRow}
    (hrows : st.senderTable.OutboxPendingForPeer task.peer deliveryBatch rows) :
    Ordered S c { st with tasks := st.tasks.set k { task with phase := .sending rows } } := by
  apply h.setTask
  intro front r back hsplit hto o ho he
  obtain ⟨o', ho', rfl⟩ := hi.exists_outbox ho
  obtain ⟨hr, _, hrpeer⟩ := hrows.mem (show r ∈ rows by rw [show rows = _ from hsplit]; simp)
  by_cases hd : o'.deliveredAtMs.isSome
  · exact Or.inl (onWire_undelivered rfl (hi.delivered o' ho' hd))
  · have hstamp := h.stamped _ ho _ (hi.mem_log hr) hto ⟨he.peer, he.channel, he.seq⟩
    obtain ⟨all, hordered, hall⟩ := hrows
    have hpending : o' ∈ all := hordered.mem_iff.mpr
      (MessageTable.mem_pendingFor.mpr ⟨ho', by simpa using hd, he.peer.trans hrpeer⟩)
    have hcut : all = front ++ r :: (back ++ all.drop deliveryBatch) := by
      rw [← List.cons_append, ← List.append_assoc, ← show rows = _ from hsplit, hall,
        List.take_append_drop]
    rw [hcut] at hpending
    rcases List.mem_append.mp hpending with hfront | hback
    · exact Or.inr ⟨o', hfront, rfl⟩
    · rcases List.mem_cons.mp hback with rfl | hback
      · exact (Int64.lt_irrefl he.seq).elim
      · have hsorted := (List.pairwise_append.mp (hcut ▸ hordered.2)).2.1
        have hle := (List.pairwise_cons.mp hsorted).1 o' hback
        exact (Int64.not_lt.mpr hle hstamp).elim

lemma onWire_set {streams : List Stream} {i : ℕ} {s : Stream} {body : Bytes} {r : MessageRow}
    (hs : streams[i]? = some s)
    (h : OnWire S (streams.set i { s with bodies := s.bodies ++ [body] }) r) :
    OnWire S streams r ∨ (s.channel = r.channel ∧ S.body r = body) := by
  obtain ⟨x, hx, hp, hc, hb, hl⟩ := h
  rcases List.mem_or_eq_of_mem_set hx with hx | rfl
  · exact Or.inl ⟨x, hx, hp, hc, hb, hl⟩
  · rcases List.mem_append.mp hb with hb | hb
    · exact Or.inl ⟨s, List.mem_of_getElem? hs, hp, hc, hb, hl⟩
    · exact Or.inr ⟨hc, List.mem_singleton.mp hb⟩

lemma log_eq (hi : Invariant S st) {r r' : MessageRow} (hr : r ∈ st.log) (hr' : r' ∈ st.log)
    (hc : r.channel = r'.channel) (hseq : r.seq = r'.seq) : r = r' := by
  obtain ⟨hs, hcid⟩ := hi.log_rows r hr
  obtain ⟨hs', hcid'⟩ := hi.log_rows r' hr'
  refine hi.eq_of_key hr hr' ?_
  rw [MessageRow.key, MessageRow.key, hs, hs', hcid, hcid', hc, hseq]

lemma seq_eq_of_toInt64 {a b : UInt64} (h : a.toInt64 = b.toInt64) : a = b := by
  simpa using congrArg Int64.toUInt64 h

lemma Ordered.write (h : Ordered S c st) (hi : Invariant S st) {k i : ℕ} {task : Task}
    {row : MessageRow} {rest : List MessageRow} {s s' : Stream} (htask : st.tasks[k]? = some task)
    (hphase : task.phase = .sending (row :: rest))
    (hstream : task.streams.lookup row.channel = some i) (hs : st.streams[i]? = some s)
    (hwrite : writeCborFrame s (S.body row) = some s') :
    Ordered S c { st with
      tasks := st.tasks.set k { task with phase := .marking row rest }
      streams := st.streams.set i s' } := by
  obtain ⟨_, rfl⟩ := writeCborFrame_some hwrite
  have hmem := List.mem_of_getElem? htask
  have hok := hi.tasks task hmem
  have hturn : InTurn S c st.log st.streams (row :: rest) := by
    simpa [hphase, Phase.rows] using h.tasks task hmem
  obtain ⟨hrow, _⟩ := hok.rows row (by simp [hphase, Phase.rows])
  obtain ⟨x, hx, _, hchannel⟩ := hok.streams _ _ hstream
  obtain rfl : s = x := Option.some.inj (hs.symm.trans hx)
  have hg : Grows st.streams (st.streams.set i { s with bodies := s.bodies ++ [S.body row] }) :=
    grows_set hs rfl rfl (List.subset_append_left _ _)
  refine ⟨h.stamped, ?_, ?_⟩
  · exact forall_mem_set (fun t ht => (h.tasks t ht).mono hg) (hturn.mono hg)
  · intro o ho r hr hto he hw
    rcases onWire_set hs hw with hw | ⟨hc, hbody⟩
    · exact (h.written o ho r hr hto he hw).mono hg
    · have heq : r = row.undelivered :=
        log_eq hi hr hrow (hc.symm.trans hchannel)
          (congrArg MessageFrame.seq (body_frame hbody))
      rw [heq] at hto he
      exact (hturn.head hto ho ⟨he.peer, he.channel, he.seq⟩).mono hg

lemma opens_bodies {trust : Daemon.Trust.State} {target : NodeId} {channel : String}
    {now : UInt64} {new : Stream} (h : Opens S trust target channel now new) : new.bodies = [] := by
  cases h
  rfl

lemma ordered_step (h : Ordered S c st) (hi : Invariant S st) (hlater : LaterStamp S c st l)
    (hstep : Step S st l st') : Ordered S c st' := by
  cases hstep with
  | send hpeer henq => exact h.send hi hpeer henq hlater
  | startTask =>
    refine h.keep rfl (Grows.refl _) (Repeats.refl _) fun t ht => ?_
    rcases List.mem_append.mp ht with ht | ht
    · exact Or.inr ⟨t, ht, rfl⟩
    · obtain rfl := List.mem_singleton.mp ht
      exact Or.inl rfl
  | query _ _ hrows => exact h.query hi hrows
  | openStream htask hphase _ hopen =>
    have hnew := opens_bodies hopen
    refine h.keep rfl (grows_append _ _) (repeats_append _ hnew) fun t ht => Or.inr ?_
    rcases List.mem_or_eq_of_mem_set ht with ht | rfl
    · exact ⟨t, ht, rfl⟩
    · exact ⟨_, List.mem_of_getElem? htask, rfl⟩
  | openDenied => exact h.setTask (inTurn_nil _ _)
  | write htask hphase hstream hs hwrite => exact h.write hi htask hphase hstream hs hwrite
  | tooLarge => exact h.setTask (inTurn_nil _ _)
  | mark htask hphase =>
    have hmem := List.mem_of_getElem? htask
    have hturn := h.tasks _ hmem
    rw [hphase] at hturn
    have hnext := hturn.tail ((hi.tasks _ hmem).written _ _ hphase)
    exact { h with tasks := forall_mem_set h.tasks hnext }
  | fail => exact h.setTask (inTurn_nil _ _)
  | restart => exact { h with tasks := fun t ht => by cases ht }
  | connect hs =>
    exact h.sameTasks rfl (grows_set hs rfl rfl (List.Subset.refl _)) (repeats_set hs rfl rfl rfl)
      rfl
  | look hs =>
    exact h.sameTasks rfl (grows_set hs rfl rfl (List.Subset.refl _)) (repeats_set hs rfl rfl rfl)
      rfl
  | record hs =>
    exact h.sameTasks rfl (grows_set hs rfl rfl (List.Subset.refl _)) (repeats_set hs rfl rfl rfl)
      rfl
  | recordFails hs =>
    exact h.sameTasks rfl (grows_set hs rfl rfl (List.Subset.refl _)) (repeats_set hs rfl rfl rfl)
      rfl
  | _ => exact h.sameTasks rfl (Grows.refl _) (Repeats.refl _) rfl

lemma ordered_run {senderTrust receiverTrust : Daemon.Trust.State} {labels : List Label}
    (hrun : Run (Guarded (KeepsOrder S c) (Step S)) (initial senderTrust receiverTrust) labels st) :
    Invariant S st ∧ Ordered S c st := by
  refine hrun.invariant (I := fun st => Invariant S st ∧ Ordered S c st) ?_ ?_
  · rintro s l t ⟨hi, h⟩ ⟨hcond, hstep⟩
    exact ⟨invariant_step hi hstep, ordered_step h hi hcond.1 hstep⟩
  · refine ⟨invariant_initial _ _, ?_, ?_, ?_⟩
    · intro o ho
      cases ho
    · intro t ht
      cases ht
    · intro o ho
      cases ho

structure FirstWrite (S : Setting) (st st' : State) (r : MessageRow) : Prop where
  logged : r ∈ st.log
  unwritten : ¬ OnWire S st.streams r
  written : OnWire S st'.streams r

lemma grows_step (hstep : Step S st l st') : Grows st.streams st'.streams := by
  cases hstep with
  | openStream => exact grows_append _ _
  | write _ _ _ hs hwrite =>
    obtain ⟨_, rfl⟩ := writeCborFrame_some hwrite
    exact grows_set hs rfl rfl (List.subset_append_left _ _)
  | connect hs => exact grows_set hs rfl rfl (List.Subset.refl _)
  | look hs => exact grows_set hs rfl rfl (List.Subset.refl _)
  | record hs => exact grows_set hs rfl rfl (List.Subset.refl _)
  | recordFails hs => exact grows_set hs rfl rfl (List.Subset.refl _)
  | _ => exact Grows.refl _

lemma log_step (hstep : Step S st l st') : st.log ⊆ st'.log := by
  cases hstep with
  | send => exact List.subset_append_left _ _
  | _ => exact List.Subset.refl _

lemma written_run {labels : List Label} (hrun : Run (Step S) st labels st') {r : MessageRow}
    (hr : r ∈ st.log) (hw : OnWire S st.streams r) : r ∈ st'.log ∧ OnWire S st'.streams r := by
  refine hrun.invariant (I := fun st => r ∈ st.log ∧ OnWire S st.streams r) ?_ ⟨hr, hw⟩
  rintro s l t ⟨hr, hw⟩ hstep
  exact ⟨log_step hstep hr, hw.mono (grows_step hstep)⟩

lemma backlog_in_order (hi : Invariant S st) (ha : Apart S c st) (h : Ordered S c st) {peer : Option NodeId}
    {channel : Option String} {afterMs : Option UInt64} {limit : ℕ} {answer : List MessageRow}
    (hb : st.receiverTable.InboxBacklog peer channel afterMs limit answer) :
    (answer.filter fun r => r.sender = S.sender && r.channel = c).Pairwise
      fun r r' => r.seq.toInt64 < r'.seq.toInt64 := by
  obtain ⟨rows, hordered, rfl⟩ := hb
  have hrows : ∀ r ∈ rows, r ∈ st.receiverTable.rows :=
    fun r hr => (List.mem_filter.mp (hordered.mem_iff.mp hr)).1
  have hkeys : rows.Pairwise fun r r' => r.key ≠ r'.key := by
    have hnodup : (rows.map MessageRow.key).Nodup :=
      (hordered.1.map _).nodup_iff.mpr
        (st.receiverTable.nodup.sublist (List.filter_sublist.map _))
    exact List.pairwise_map.mp hnodup
  have hboth := ((hordered.2.and hkeys).sublist (List.take_sublist limit rows)).sublist
    (List.filter_sublist (p := fun r => r.sender = S.sender && r.channel = c))
  refine hboth.imp_of_mem ?_
  intro r r' hr hr' ⟨hle, hne⟩
  obtain ⟨hmem, hp⟩ := List.mem_filter.mp hr
  obtain ⟨hmem', hp'⟩ := List.mem_filter.mp hr'
  obtain ⟨hs, hc⟩ : r.sender = S.sender ∧ r.channel = c := by simpa using hp
  obtain ⟨hs', hc'⟩ : r'.sender = S.sender ∧ r'.channel = c := by simpa using hp'
  obtain ⟨o, ho, hto, hsame⟩ := ha.inbox r (hrows r (List.mem_of_mem_take hmem)) hs hc
  obtain ⟨o', ho', hto', hsame'⟩ := ha.inbox r' (hrows r' (List.mem_of_mem_take hmem')) hs' hc'
  have hseq : o.seq = r.seq := congrArg (fun k => k.2.2) hsame.key
  have hseq' : o'.seq = r'.seq := congrArg (fun k => k.2.2) hsame'.key
  have hchannel : o.channel = o'.channel :=
    (hsame.channel.trans hc).trans (hsame'.channel.trans hc').symm
  by_contra hnot
  rcases Int64.lt_or_eq_of_le (Int64.not_lt.mp hnot) with hlt | heq
  · have hearlier : Earlier o' o := ⟨hto'.trans hto.symm, hchannel.symm, by rwa [hseq, hseq']⟩
    have hstamp := h.stamped o' ho' o ho ⟨hto, hsame.channel.trans hc⟩ hearlier
    rw [hsame.enqueuedAtMs, hsame'.enqueuedAtMs] at hstamp
    exact Int64.not_lt.mpr hle hstamp
  · have heq' : o = o' := log_eq hi ho ho' hchannel
      ((hseq.trans (seq_eq_of_toInt64 heq).symm).trans hseq'.symm)
    apply hne
    rw [← hsame.key, ← hsame'.key, heq']

theorem fifo_while_stamps_increase {senderTrust receiverTrust : Daemon.Trust.State}
    {labels : List Label}
    (hrun : Run (Guarded (KeepsOrder S c) (Step S)) (initial senderTrust receiverTrust) labels st) :
    (∀ l st₁ between st₂ l' st₃ r r', Guarded (KeepsOrder S c) (Step S) st l st₁ →
      Run (Guarded (KeepsOrder S c) (Step S)) st₁ between st₂ →
      Guarded (KeepsOrder S c) (Step S) st₂ l' st₃ →
      FirstWrite S st st₁ r → FirstWrite S st₂ st₃ r' → Ours S c r → Ours S c r' →
        r.seq.toInt64 < r'.seq.toInt64) ∧
    ∀ peer channel afterMs limit answer,
      st.receiverTable.InboxBacklog peer channel afterMs limit answer →
        (answer.filter fun r => r.sender = S.sender && r.channel = c).Pairwise
          fun r r' => r.seq.toInt64 < r'.seq.toInt64 := by
  obtain ⟨hi, h⟩ := ordered_run hrun
  have ha : Apart S c st := apart_run (hrun.mono fun _ _ _ hg => ⟨hg.1.2, hg.2⟩)
  refine ⟨?_, fun _ _ _ _ _ hb => backlog_in_order hi ha h hb⟩
  intro l st₁ between st₂ l' st₃ r r' hstep hbetween _ hfirst hfirst' hours hours'
  obtain ⟨hi₂, h₂⟩ := ordered_run (hrun.append (.cons hstep hbetween))
  obtain ⟨hr, hw⟩ := written_run hbetween.forget (log_step hstep.2 hfirst.logged) hfirst.written
  have hchannel : r.channel = r'.channel := hours.2.trans hours'.2.symm
  by_contra hnot
  rcases Int64.lt_or_eq_of_le (Int64.not_lt.mp hnot) with hlt | heq
  · have hearlier : Earlier r' r := ⟨hours'.1.trans hours.1.symm, hchannel.symm, hlt⟩
    exact hfirst'.unwritten (h₂.written r' hfirst'.logged r hr hours hearlier hw)
  · have hsame : r = r' := log_eq hi₂ hr hfirst'.logged hchannel (seq_eq_of_toInt64 heq).symm
    exact hfirst'.unwritten (hsame ▸ hw)

def firstRow : MessageRow :=
  ⟨Sample.node 1, Sample.channelId "default", 1, .out, "default", Sample.node 2, [97], 5, none⟩

def secondRow (now : UInt64) : MessageRow :=
  ⟨Sample.node 1, Sample.channelId "default", 2, .out, "default", Sample.node 2, [98], now, none⟩

def oneRow : MessageTable := ⟨[firstRow], List.nodup_singleton _⟩

def twoRows (now : UInt64) : MessageTable :=
  ⟨[firstRow, secondRow now], List.nodup_cons.mpr
    ⟨by simp [MessageRow.key, firstRow, secondRow], List.nodup_singleton _⟩⟩

def twoSent (table : MessageTable) (now : UInt64) (bodies : List Bytes) (phase : Phase) : State :=
  { initial aliceTrust bobTrust with
    senderTable := table
    log := [firstRow, secondRow now]
    tasks := [⟨Sample.node 2, [("default", 0)], phase⟩]
    streams := [streamFor (Sample.node 2) bodies] }

def queried (now : UInt64) (rows : List MessageRow) : State :=
  { initial aliceTrust bobTrust with
    senderTable := twoRows now
    log := [firstRow, secondRow now]
    tasks := [⟨Sample.node 2, [], .sending rows⟩] }

def sendLabels (now : UInt64) : List Label :=
  [.send (.name "bob") "default" [97] 5, .send (.name "bob") "default" [98] now,
    .startTask (Sample.node 2), .query 0, .openStream 0 1000]

lemma sends_run {P : State → Label → Prop} {now : UInt64} {r r' : MessageRow}
    (hfirst : P (initial aliceTrust bobTrust) (.send (.name "bob") "default" [97] 5))
    (hsecond : P { initial aliceTrust bobTrust with senderTable := oneRow, log := [firstRow] }
      (.send (.name "bob") "default" [98] now))
    (hother : ∀ st, P st (.startTask (Sample.node 2)) ∧ P st (.query 0))
    (hopens : P (queried now [r, r']) (.openStream 0 1000))
    (hrows : (twoRows now).OutboxPendingForPeer (Sample.node 2) deliveryBatch [r, r'])
    (hc : r.channel = "default") :
    Run (Guarded P (Step pair)) (initial aliceTrust bobTrust) (sendLabels now)
      (twoSent (twoRows now) now [] (.sending [r, r'])) := by
  have henq : MessageTable.outboxEnqueue Table.empty Sample.channelId (Sample.node 1)
      (Sample.node 2) "default" [97] 5 = .ok (oneRow, firstRow) := by rfl
  have henq' : oneRow.outboxEnqueue Sample.channelId (Sample.node 1) (Sample.node 2) "default" [98]
      now = .ok (twoRows now, secondRow now) := by rfl
  have hopen : Opens pair aliceTrust (Sample.node 2) r.channel 1000 (streamFor (Sample.node 2) []) :=
    hc ▸ alice_opens
  refine .cons ⟨hfirst, .send alice_knows_bob henq⟩ ?_
  refine .cons ⟨hsecond, .send alice_knows_bob henq'⟩ ?_
  refine .cons ⟨(hother _).1, .startTask⟩ (.cons ⟨(hother _).2, .query rfl rfl hrows⟩ ?_)
  refine .cons ⟨hopens, ?_⟩ .nil
  have hstep : Step pair (queried now [r, r']) (.openStream 0 1000) _ :=
    .openStream rfl rfl rfl hopen
  rwa [hc] at hstep

lemma write_step {table : MessageTable} {now : UInt64} {bodies : List Bytes} {r : MessageRow}
    {rest : List MessageRow} (hc : r.channel = "default")
    (hl : (pair.body r).length ≤ maxFrameBytes) :
    Step pair (twoSent table now bodies (.sending (r :: rest))) (.write 0)
      (twoSent table now (bodies ++ [pair.body r]) (.marking r rest)) := by
  have hlook : [("default", 0)].lookup r.channel = some 0 := by
    rw [hc]
    rfl
  have hwrite : writeCborFrame (streamFor (Sample.node 2) bodies) (pair.body r) =
      some (streamFor (Sample.node 2) (bodies ++ [pair.body r])) := if_pos hl
  exact @Step.write pair (twoSent table now bodies (.sending (r :: rest))) 0 _ r rest 0 _ _ rfl rfl
    hlook rfl hwrite

lemma firstWrite {st st' : State} {bodies : List Bytes} {r : MessageRow} (hlog : r ∈ st.log)
    (hst : st.streams = [streamFor (Sample.node 2) bodies])
    (hst' : st'.streams = [streamFor (Sample.node 2) (bodies ++ [pair.body r])])
    (hp : r.peerNodeid = Sample.node 2) (hc : r.channel = "default")
    (hl : (pair.body r).length ≤ maxFrameBytes) (hnew : pair.body r ∉ bodies) :
    FirstWrite pair st st' r := by
  refine ⟨hlog, ?_, ?_⟩
  · rintro ⟨s, hs, _, _, hb, _⟩
    rw [hst] at hs
    obtain rfl := List.mem_singleton.mp hs
    exact hnew hb
  · rw [hst']
    exact ⟨_, List.mem_singleton_self _, hp.symm, hc.symm, by simp [streamFor], hl⟩

theorem backward_clock_reorders_channel :
    ∃ st st₁ st₂ st₃ r r', Run (Step pair) (initial aliceTrust bobTrust) (sendLabels 4) st ∧
      Step pair st (.write 0) st₁ ∧ Run (Step pair) st₁ [.mark 0 6] st₂ ∧
      Step pair st₂ (.write 0) st₃ ∧ FirstWrite pair st st₁ r ∧ FirstWrite pair st₂ st₃ r' ∧
      r.peerNodeid = pair.receiver ∧ r'.peerNodeid = pair.receiver ∧ r.channel = r'.channel ∧
      r'.seq < r.seq := by
  have hrows : (twoRows 4).OutboxPendingForPeer (Sample.node 2) deliveryBatch
      [secondRow 4, firstRow] := by
    refine ⟨[secondRow 4, firstRow], ⟨List.Perm.swap _ _ [], ?_⟩, rfl⟩
    exact List.pairwise_pair.mpr (by decide)
  have hl : (pair.body (secondRow 4)).length ≤ maxFrameBytes := body_fits (by decide)
  have hl' : (pair.body firstRow).length ≤ maxFrameBytes := body_fits (by decide)
  have hrun := (sends_run (P := fun _ _ => True) trivial trivial (fun _ => ⟨trivial, trivial⟩) trivial
    hrows rfl).forget
  refine ⟨_, _, _, _, secondRow 4, firstRow, hrun, write_step rfl hl, .single (.mark rfl rfl),
    @write_step _ 4 _ firstRow [] rfl hl', ?_, ?_, rfl, rfl, rfl, by decide⟩
  · exact firstWrite (by simp [twoSent]) rfl rfl rfl rfl hl (by simp)
  · exact firstWrite (by simp [twoSent]) rfl rfl rfl rfl hl' (by decide +kernel)

theorem fifo_while_stamps_increase_two :
    ∃ st, Run (Guarded (KeepsOrder pair "default") (Step pair)) (initial aliceTrust bobTrust)
        (sendLabels 6) st ∧ (firstRow.seq.toInt64 < (secondRow 6).seq.toInt64) := by
  have hrows : (twoRows 6).OutboxPendingForPeer (Sample.node 2) deliveryBatch
      [firstRow, secondRow 6] := by
    refine ⟨[firstRow, secondRow 6], ⟨List.Perm.refl _, ?_⟩, rfl⟩
    exact List.pairwise_pair.mpr (by decide)
  have hl : (pair.body firstRow).length ≤ maxFrameBytes := body_fits (by decide)
  have hl' : (pair.body (secondRow 6)).length ≤ maxFrameBytes := body_fits (by decide)
  have hrun : Run (Guarded (KeepsOrder pair "default") (Step pair)) (initial aliceTrust bobTrust)
      (sendLabels 6) (twoSent (twoRows 6) 6 [] (.sending [firstRow, secondRow 6])) := by
    refine sends_run ⟨?_, trivial⟩ ⟨?_, trivial⟩ (fun _ => ⟨⟨trivial, trivial⟩, trivial, trivial⟩)
      ⟨trivial, ?_⟩ hrows rfl
    · intro _ peer _ _ o ho
      cases ho
    · intro _ peer _ _ o ho _ _
      obtain rfl := List.mem_singleton.mp ho
      decide
    · exact @opensAddressed_of_peers _ (queried 6 _) (List.forall_mem_singleton.mpr rfl) _ _
  refine ⟨_, hrun, ?_⟩
  exact (fifo_while_stamps_increase hrun).1 (.write 0) _ [.mark 0 7] _ (.write 0) _ firstRow
    (secondRow 6) ⟨⟨trivial, trivial⟩, write_step rfl hl⟩
    (.single ⟨⟨trivial, trivial⟩, .mark rfl rfl⟩)
    ⟨⟨trivial, trivial⟩, @write_step _ 6 _ (secondRow 6) [] rfl hl'⟩
    (firstWrite (by simp [twoSent]) rfl rfl rfl rfl hl (by simp))
    (firstWrite (by simp [twoSent]) rfl rfl rfl rfl hl' (by decide +kernel)) ⟨rfl, rfl⟩ ⟨rfl, rfl⟩

end WalkieTalkie.Delivery.Fifo
