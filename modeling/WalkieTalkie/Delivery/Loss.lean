import WalkieTalkie.Delivery.ExactlyOnce

/-! What becomes of a delivered row. The sender marks a row once its frame is buffered and never
reads the reverse half of the stream, so the row arrives when the stream was opened to the receiver
itself, the receiver takes in its connection and its token, and the frame is stored. -/

namespace WalkieTalkie.Delivery.Loss

open Proto Store Auth Lib Lib.Runs ExactlyOnce

variable {S : Setting} {st st' : State} {l : Label}

/-- Nothing is in flight: the receiver has looked at every stream to it and has taken every frame
of the streams it accepted. -/
def Settled (S : Setting) (st : State) : Prop :=
  ∀ s ∈ st.streams, s.remote = S.receiver →
    s.verdict = .refused ∨
      (∃ name, s.verdict = .accepted name) ∧ ∀ j < s.bodies.length, j ∈ s.taken

def Arrived (st : State) (r : MessageRow) : Prop :=
  ∃ i ∈ st.receiverTable.rows, i.direction = .inbound ∧ SameMessage r i

/-- A stream for the receiver is opened to the receiver; the receiver knows the sender when it takes
the stream's connection, accepts its token and stores its frames. -/
def TakesIn (S : Setting) (st : State) : Label → Prop
  | .openStream k now => ∀ task row rest s, st.tasks[k]? = some task →
    task.phase = .sending (row :: rest) → task.peer = S.receiver →
      Opens S st.senderTrust task.peer row.channel now s → s.remote = S.receiver
  | .connect i => ∀ s, st.streams[i]? = some s → s.peer = S.receiver →
    requirePeerKnown S.sender (.ok (st.receiverTrust.peers.peerGet (.nodeId S.sender))) = .ok ()
  | .look i now => ∀ s, st.streams[i]? = some s → s.peer = S.receiver →
    ∃ claims, verifyToken S.lib s.token S.receiver S.sender .msg now
      (fun id => .ok (st.receiverTrust.tokens.tokenFind id)) = .ok claims
  | .recordFails i _ => ∀ s, st.streams[i]? = some s → s.peer ≠ S.receiver
  | _ => True

def Recorded (S : Setting) (table : MessageTable) (s : Stream) : Prop :=
  ∀ j ∈ s.taken, ∃ body frame, s.bodies[j]? = some body ∧ S.readFrame body = some frame ∧
    ∃ i ∈ table.rows, i.key = (S.sender, S.channelId s.channel, frame.seq)

structure Taken (S : Setting) (table : MessageTable) (s : Stream) : Prop where
  reaches : s.remote = S.receiver
  accepted : s.verdict ≠ .refused
  recorded : Recorded S table s

def AllTaken (S : Setting) (st : State) : Prop :=
  ∀ s ∈ st.streams, s.peer = S.receiver → Taken S st.receiverTable s

lemma Recorded.mono {table table' : MessageTable} {s : Stream}
    (hk : ∀ i ∈ table.rows, ∃ i' ∈ table'.rows, i'.key = i.key) (h : Recorded S table s) :
    Recorded S table' s := by
  intro j hj
  obtain ⟨body, frame, hb, hf, i, hi, hik⟩ := h j hj
  obtain ⟨i', hi', he⟩ := hk i hi
  exact ⟨body, frame, hb, hf, i', hi', he.trans hik⟩

lemma AllTaken.setTable (h : AllTaken S st) {table : MessageTable}
    (hk : ∀ i ∈ st.receiverTable.rows, ∃ i' ∈ table.rows, i'.key = i.key) :
    AllTaken S { st with receiverTable := table } :=
  fun s hs hp => { h s hs hp with recorded := (h s hs hp).recorded.mono hk }

lemma keys_recordInbound (st : State) (remote : NodeId) (fromName : Option String)
    (channel : String) (frame : MessageFrame) (now : UInt64) :
    ∀ i ∈ st.receiverTable.rows,
      ∃ i' ∈ (recordInbound S st remote fromName channel frame now).receiverTable.rows,
        i'.key = i.key :=
  fun i hi => ⟨i, Table.mem_insertOrIgnore.mpr (Or.inl hi), rfl⟩

lemma exists_recordInbound (st : State) (remote : NodeId) (fromName : Option String)
    (channel : String) (frame : MessageFrame) (now : UInt64) :
    ∃ i ∈ (recordInbound S st remote fromName channel frame now).receiverTable.rows,
      i.key = (remote, S.channelId channel, frame.seq) := by
  let row := MessageTable.inboundRow S.channelId remote channel frame now
  by_cases hex : ∃ o ∈ st.receiverTable.rows, o.key = row.key
  · obtain ⟨o, ho, hk⟩ := hex
    exact ⟨o, Table.mem_insertOrIgnore.mpr (Or.inl ho), hk⟩
  · exact ⟨row, Table.mem_insertOrIgnore.mpr (Or.inr ⟨rfl, fun o ho hk => hex ⟨o, ho, hk⟩⟩), rfl⟩

lemma AllTaken.recordInbound (h : AllTaken S st) {remote : NodeId} {fromName : Option String}
    {channel : String} {frame : MessageFrame} {now : UInt64} :
    AllTaken S (recordInbound S st remote fromName channel frame now) :=
  h.setTable (keys_recordInbound st remote fromName channel frame now)

lemma AllTaken.record (h : AllTaken S st) {i j : ℕ} {now : UInt64} {s : Stream}
    {name : Option String} {body : Bytes} {frame : MessageFrame} (hs : st.streams[i]? = some s)
    (hbody : s.bodies[j]? = some body) (hframe : S.readFrame body = some frame) :
    AllTaken S (Delivery.recordInbound S
      { st with streams := st.streams.set i { s with taken := j :: s.taken } }
      S.sender name s.channel frame now) := by
  have hmem := List.mem_of_getElem? hs
  have hkeys := keys_recordInbound (S := S)
    { st with streams := st.streams.set i { s with taken := j :: s.taken } } S.sender name
    s.channel frame now
  refine forall_mem_set (fun x hx hp => ?_) fun hp => ?_
  · exact { h x hx hp with recorded := (h x hx hp).recorded.mono hkeys }
  · refine { h s hmem hp with recorded := fun k hk => ?_ }
    rcases List.mem_cons.mp hk with rfl | hk
    · exact ⟨body, frame, hbody, hframe, exists_recordInbound _ _ _ _ _ _⟩
    · exact (h s hmem hp).recorded.mono hkeys k hk

lemma recorded_write {table : MessageTable} {s : Stream} (h : Recorded S table s) (body : Bytes) :
    Recorded S table { s with bodies := s.bodies ++ [body] } := by
  intro j hj
  obtain ⟨b, frame, hb, hrest⟩ := h j hj
  have hlt : j < s.bodies.length := (List.getElem?_eq_some_iff.mp hb).1
  exact ⟨b, frame, by rwa [List.getElem?_append_left hlt], hrest⟩

lemma connectVerdict_ne_refused {trust : Daemon.Trust.State}
    (h : requirePeerKnown S.sender (.ok (trust.peers.peerGet (.nodeId S.sender))) = .ok ()) :
    connectVerdict S trust ≠ .refused := by
  rw [connectVerdict, h]
  simp

lemma lookVerdict_ne_refused {trust : Daemon.Trust.State} {token : SignedToken} {now : UInt64}
    (h : ∃ claims, verifyToken S.lib token S.receiver S.sender .msg now
      (fun id => .ok (trust.tokens.tokenFind id)) = .ok claims) :
    lookVerdict S trust token now ≠ .refused := by
  obtain ⟨claims, hc⟩ := h
  rw [lookVerdict, hc]
  simp

lemma taken_step (h : AllTaken S st) (hl : TakesIn S st l) (hstep : Step S st l st') :
    AllTaken S st' := by
  cases hstep with
  | @openStream _ _ task row rest new htask hphase _ hopen =>
    refine forall_mem_snoc h fun hp => ?_
    have hpeer : new.peer = task.peer := by cases hopen; rfl
    have hreach := hl task row rest new htask hphase (hpeer.symm.trans hp) hopen
    cases hopen
    exact ⟨hreach, by simp, fun j hj => by cases hj⟩
  | @write _ _ row _ _ s _ _ _ _ hs hwrite =>
    obtain ⟨_, rfl⟩ := writeCborFrame_some hwrite
    refine forall_mem_set h fun hp => ?_
    have hok := h s (List.mem_of_getElem? hs) hp
    exact ⟨hok.reaches, hok.accepted, recorded_write hok.recorded (S.body row)⟩
  | @connect _ s _ hs _ _ hverdict =>
    refine forall_mem_set h fun hp => ?_
    have hok := h s (List.mem_of_getElem? hs) hp
    exact ⟨hok.reaches, hverdict ▸ connectVerdict_ne_refused (hl s hs hp), hok.recorded⟩
  | @look _ _ s _ hs _ _ hverdict =>
    refine forall_mem_set h fun hp => ?_
    have hok := h s (List.mem_of_getElem? hs) hp
    exact ⟨hok.reaches, hverdict ▸ lookVerdict_ne_refused (hl s hs hp), hok.recorded⟩
  | record hs _ _ hbody hframe => exact h.record hs hbody hframe
  | recordFails hs => exact forall_mem_set h fun hp => (hl _ hs hp).elim
  | receiverInbound => exact h.recordInbound
  | receiverSend henq =>
    refine h.setTable fun r hr => ⟨r, ?_, rfl⟩
    rw [(MessageTable.outboxEnqueue_ok henq).1]
    exact List.mem_append_left _ hr
  | receiverMark =>
    refine h.setTable fun r hr => ?_
    exact ⟨_, MessageTable.mem_outboxMarkDelivered.mpr ⟨r, hr, rfl⟩, by split <;> rfl⟩
  | _ => exact h

lemma taken_run {senderTrust receiverTrust : Daemon.Trust.State} {labels : List Label}
    (hrun : Run (Guarded (TakesIn S) (Step S)) (initial senderTrust receiverTrust) labels st) :
    AllTaken S st := by
  refine hrun.invariant (I := AllTaken S) ?_ fun s hs => ?_
  · rintro s l t hs ⟨hl, hstep⟩
    exact taken_step hs hl hstep
  · cases hs

theorem delivered_row_arrives {senderTrust receiverTrust : Daemon.Trust.State}
    {labels : List Label}
    (hrun : Run (Guarded (TakesIn S) (Step S)) (initial senderTrust receiverTrust) labels st)
    (hsettled : Settled S st) :
    ∀ r ∈ st.senderTable.outbox, r.peerNodeid = S.receiver → r.deliveredAtMs.isSome →
      Arrived st r := by
  have hi := invariant_run hrun.forget
  have ht := taken_run hrun
  intro r hr hpeer hd
  obtain ⟨s, hs, hsp, hsc, hbody, _⟩ := hi.delivered r hr hd
  obtain ⟨j, hj⟩ := List.mem_iff_getElem?.mp hbody
  obtain ⟨hreach, haccepted, hrecorded⟩ := ht s hs (hsp.trans hpeer)
  obtain ⟨_, htaken⟩ := (hsettled s hs hreach).resolve_left haccepted
  have hjt := htaken j (List.getElem?_eq_some_iff.mp hj).1
  obtain ⟨b, frame, hb, hframe, i, hin, hik⟩ := hrecorded j hjt
  obtain rfl : b = S.body r := Option.some.inj (hb.symm.trans hj)
  obtain rfl := readFrame_body hframe
  obtain ⟨hdir, o, ho, hsame⟩ := hi.inbox i hin (congrArg Prod.fst hik)
  obtain ⟨hsender, hcid⟩ := hi.log_rows _ (hi.mem_log hr)
  have hrk : r.key = i.key := by
    rw [hik]
    exact Prod.ext hsender (Prod.ext (hcid.trans (congrArg S.channelId hsc.symm)) rfl)
  obtain rfl : o = r.undelivered :=
    hi.eq_of_key ho (hi.mem_log hr) (hsame.key.trans hrk.symm)
  exact ⟨i, hin, hdir, hrk, hsame.channel, hsame.payload, hsame.enqueuedAtMs⟩

lemma alice_reaches_bob {c : String} {now : UInt64} {s : Stream}
    (h : Opens pair aliceTrust (Sample.node 2) c now s) : s.remote = Sample.node 2 := by
  cases h with
  | opened hpeer _ _ haddr =>
    obtain rfl := Option.some.inj (alice_dials_bob.symm.trans hpeer)
    exact dialled_id haddr rfl fun _ _ hblob => by cases hblob

lemma greeting_takes_in (hw : Within aliceTrust (Sample.node 2) st)
    (hl : l ∈ greetingLabels "bob" (Sample.node 2)) : TakesIn pair st l := by
  simp only [greetingLabels, List.mem_cons, List.not_mem_nil, or_false] at hl
  rcases hl with rfl | rfl | rfl | rfl | rfl | rfl
  · trivial
  · trivial
  · trivial
  · intro task row rest s _ _ hpeer hopen
    rw [hw.1, hpeer] at hopen
    exact alice_reaches_bob hopen
  · trivial
  · trivial

lemma arrived_run :
    Run (Guarded (TakesIn pair) (Step pair)) (initial aliceTrust bobTrust)
      (greetingLabels "bob" (Sample.node 2) ++ arrivalLabels)
      (arrived aliceTrust (Sample.node 2)) := by
  have hknown : requirePeerKnown pair.sender
      (.ok (bobTrust.peers.peerGet (.nodeId pair.sender))) = .ok () := by
    rw [show bobTrust.peers.peerGet (.nodeId pair.sender) = _ from bob_knows_alice]
    rfl
  have hsent := (greeting_run alice_knows_bob rfl alice_opens bobTrust).guard
    (p := (· ∈ greetingLabels "bob" (Sample.node 2))) fun _ hl => hl
  refine (hsent.mono fun _ _ _ h => ⟨greeting_takes_in h.2.1 h.1, h.2.2⟩).append ?_
  refine .cons ⟨fun _ _ _ => hknown, .connect rfl rfl rfl bob_connects⟩ ?_
  refine .cons ⟨fun s hs _ => ?_, .look rfl rfl rfl bob_accepts⟩ ?_
  · obtain rfl := Option.some.inj hs
    exact ⟨_, bob_verifies⟩
  · exact .cons ⟨trivial, .record rfl rfl rfl rfl (readFrame_greeting _)⟩ .nil

theorem delivered_row_arrives_greeting :
    let st := arrived aliceTrust (Sample.node 2)
    Settled pair st ∧ ∃ r ∈ st.senderTable.outbox, r.deliveredAtMs.isSome ∧ Arrived st r := by
  have hsettled : Settled pair (arrived aliceTrust (Sample.node 2)) := by
    intro s hs _
    obtain rfl := List.mem_singleton.mp hs
    refine Or.inr ⟨⟨_, rfl⟩, fun j hj => ?_⟩
    obtain rfl : j = 0 := by simpa [takenStream, streamFor] using hj
    exact List.mem_singleton_self _
  refine ⟨hsettled, _, List.mem_singleton_self _, rfl, ?_⟩
  exact delivered_row_arrives arrived_run hsettled _ (List.mem_singleton_self _) rfl rfl

def bobRevoked : Daemon.Trust.State :=
  (Daemon.Trust.dispatch Sample.libraries (Sample.node 2) bobTrust
    ⟨.tokenRevoke (Sample.tokenId 7), 1000, 1000, Sample.tokenId 0⟩).1

def refusalLabels : List Label :=
  greetingLabels "bob" (Sample.node 2) ++ [.receiverTrust bobRevoked, .connect 0, .look 0 1000]

def refused : State :=
  { greeted aliceTrust bobRevoked (Sample.node 2) with
    streams := [{ streamFor (Sample.node 2) [pair.body (greeting (Sample.node 2))] with
      verdict := .refused }] }

theorem refused_stream_loses_row :
    Run (Step pair) (initial aliceTrust bobTrust) refusalLabels refused ∧
    (∀ l ∈ refusalLabels, l.breaks = false) ∧
    Settled pair refused ∧
    ∃ r ∈ refused.senderTable.outbox, r.peerNodeid = pair.receiver ∧ r.deliveredAtMs.isSome ∧
      ¬ Arrived refused r := by
  have hconnect : connectVerdict pair bobRevoked = .connected := by decide +kernel
  have hlook : lookVerdict pair bobRevoked granted 1000 = .refused := by decide +kernel
  have hbreaks : ∀ l ∈ refusalLabels, l.breaks = false := by
    simp [refusalLabels, greetingLabels, Label.breaks, Label.inboxFails]
  have hsent := (greeting_run alice_knows_bob rfl alice_opens bobTrust).forget
  refine ⟨hsent.append ?_, hbreaks, ?_, _, List.mem_singleton_self _, rfl, rfl, ?_⟩
  · exact .cons .receiverTrust
      (.cons (.connect rfl rfl rfl hconnect) (.cons (.look rfl rfl rfl hlook) .nil))
  · intro s hs _
    rw [List.mem_singleton.mp hs]
    exact Or.inl rfl
  · rintro ⟨i, hi, _⟩
    cases hi

end WalkieTalkie.Delivery.Loss
