import WalkieTalkie.Delivery.Inbound
import WalkieTalkie.Sample

/-! Where inbound messages come from. Each row and each announcement has a passage behind it: the
connection that was accepted, the stream opened on it and on no other, the token verified for that
stream with the remote of that connection as the initiator, and the frame read from it. -/

namespace WalkieTalkie.Delivery.Inbound

open Proto Store Auth Lib Lib.Runs Daemon.Trust

variable {H : Host} {st st' : State} {l : Label}

def remotes (conns : List Conn) : List NodeId := conns.map Conn.remote

def Admitted (h : List Event) (k : ℕ) (R : NodeId) (rest : List Event) : Prop :=
  .connected k R ∈ h ∧ ∃ peers : PeerTable, (peers.peerGet (.nodeId R)).isSome ∧
    (.accepted k peers :: rest).Sublist h

def Opened (H : Host) (h : List Event) (i k : ℕ) (R : NodeId) (c : String) (token : SignedToken)
    (rest : List Event) : Prop :=
  .openedBi k i ∈ h ∧ ∃ body, H.opens.decode body = .ok (.msg token c) ∧
    Admitted h k R (.opened i body :: rest)

def Verified (H : Host) (h : List Event) (i k : ℕ) (R : NodeId) (c : String)
    (rest : List Event) : Prop :=
  ∃ token now fault tokens claims, verifyStream H tokens R token now fault = .ok claims ∧
    Opened H h i k R c token (.verified i R token now fault tokens claims :: rest)

def Read (H : Host) (h : List Event) (i k : ℕ) (R : NodeId) (c : String)
    (frame : MessageFrame) : Prop :=
  ∃ body, H.frames.decode body = .ok frame ∧ Verified H h i k R c [.read i body]

variable {h h' : List Event} {i k : ℕ} {R : NodeId} {c : String}

lemma Admitted.mono {rest : List Event} (hg : h <+: h') (ha : Admitted h k R rest) :
    Admitted h' k R rest := by
  obtain ⟨hk, peers, hp, hs⟩ := ha
  exact ⟨hg.subset hk, peers, hp, hs.trans hg.sublist⟩

lemma Opened.mono {token : SignedToken} {rest : List Event} (hg : h <+: h')
    (ho : Opened H h i k R c token rest) : Opened H h' i k R c token rest := by
  obtain ⟨hon, body, hb, ha⟩ := ho
  exact ⟨hg.subset hon, body, hb, ha.mono hg⟩

lemma Verified.mono {rest : List Event} (hg : h <+: h') (hv : Verified H h i k R c rest) :
    Verified H h' i k R c rest := by
  obtain ⟨token, now, fault, tokens, claims, hok, ho⟩ := hv
  exact ⟨token, now, fault, tokens, claims, hok, ho.mono hg⟩

lemma Read.mono {frame : MessageFrame} (hg : h <+: h') (hr : Read H h i k R c frame) :
    Read H h' i k R c frame := by
  obtain ⟨body, hb, hv⟩ := hr
  exact ⟨body, hb, hv.mono hg⟩

lemma Admitted.snoc {rest : List Event} (ha : Admitted h k R rest) (e : Event) :
    Admitted (h ++ [e]) k R (rest ++ [e]) := by
  obtain ⟨hk, peers, hp, hs⟩ := ha
  exact ⟨List.mem_append_left _ hk, peers, hp, hs.append (List.Sublist.refl [e])⟩

lemma Admitted.open {token : SignedToken} {body : Bytes} (ha : Admitted h k R [])
    (hon : .openedBi k i ∈ h) (hb : H.opens.decode body = .ok (.msg token c)) :
    Opened H (h ++ [.opened i body]) i k R c token [] :=
  ⟨List.mem_append_left _ hon, body, hb, ha.snoc _⟩

lemma Opened.verify {token : SignedToken} {now : UInt64} {fault : Option String}
    {tokens : TokenTable} {claims : CapabilityToken} (ho : Opened H h i k R c token [])
    (hok : verifyStream H tokens R token now fault = .ok claims) :
    Verified H (h ++ [.verified i R token now fault tokens claims]) i k R c [] := by
  obtain ⟨hon, body, hb, ha⟩ := ho
  exact ⟨token, now, fault, tokens, claims, hok, List.mem_append_left _ hon, body, hb, ha.snoc _⟩

lemma Verified.read {frame : MessageFrame} {body : Bytes} (hv : Verified H h i k R c [])
    (hb : H.frames.decode body = .ok frame) : Read H (h ++ [.read i body]) i k R c frame := by
  obtain ⟨token, now, fault, tokens, claims, hok, hon, openBody, hopen, ha⟩ := hv
  exact ⟨body, hb, token, now, fault, tokens, claims, hok, List.mem_append_left _ hon, openBody,
    hopen, ha.snoc _⟩

def Event.Links : Event → Prop
  | .connected .. => True
  | .openedBi .. => True
  | _ => False

/-- The remote of each connection and the connection of each stream are those of the history. -/
structure Ledger (st : State) : Prop where
  conns : ∀ k R, .connected k R ∈ st.history ↔ (remotes st.conns)[k]? = some R
  streams : ∀ i k, .openedBi k i ∈ st.history ↔ (st.streams.map InStream.conn)[i]? = some k

lemma Ledger.keep (hl : Ledger st) {events : List Event} (hev : ∀ e ∈ events, ¬ e.Links)
    (hh : st'.history = st.history ++ events) (hconns : remotes st'.conns = remotes st.conns)
    (hstreams : st'.streams.map InStream.conn = st.streams.map InStream.conn) : Ledger st' := by
  have hmem : ∀ e, e.Links → (e ∈ st'.history ↔ e ∈ st.history) := by
    intro e he
    rw [hh, List.mem_append]
    exact or_iff_left fun hnew => hev e hnew he
  refine ⟨fun k R => ?_, fun i k => ?_⟩
  · rw [hmem (.connected k R) trivial, hconns]
    exact hl.conns k R
  · rw [hmem (.openedBi k i) trivial, hstreams]
    exact hl.streams i k

lemma Ledger.keepAll (hl : Ledger st) (hh : st'.history = st.history)
    (hconns : remotes st'.conns = remotes st.conns)
    (hstreams : st'.streams.map InStream.conn = st.streams.map InStream.conn) : Ledger st' :=
  hl.keep (List.forall_mem_nil fun e : Event => ¬ e.Links) (by simpa using hh) hconns hstreams

lemma remotes_set {conns : List Conn} {k : ℕ} {remote : NodeId} {phase : ConnPhase}
    (hconn : conns[k]? = some ⟨remote, phase⟩) (phase' : ConnPhase) :
    remotes (conns.set k ⟨remote, phase'⟩) = remotes conns :=
  map_set_same hconn rfl

lemma remotes_get {conns : List Conn} {k : ℕ} {conn : Conn} (hconn : conns[k]? = some conn) :
    (remotes conns)[k]? = some conn.remote := by
  rw [remotes, List.getElem?_map, hconn]
  rfl

lemma Ledger.connect (hl : Ledger st) (remote : NodeId) :
    Ledger { st with
      conns := st.conns ++ [⟨remote, .connected⟩]
      history := st.history ++ [.connected st.conns.length remote] } where
  conns k R := by
    have hsnoc : remotes (st.conns ++ [⟨remote, .connected⟩]) = remotes st.conns ++ [remote] := by
      simp [remotes]
    rw [List.mem_append, hl.conns, hsnoc, getElem?_snoc_iff]
    simp [remotes]
  streams i k := by
    rw [List.mem_append, hl.streams]
    simp

lemma Ledger.openBi (hl : Ledger st) (k : ℕ) :
    Ledger { st with
      streams := st.streams ++ [⟨k, [], .waiting⟩]
      history := st.history ++ [.openedBi k st.streams.length] } where
  conns k R := by
    rw [List.mem_append, hl.conns]
    simp
  streams i k' := by
    rw [List.mem_append, hl.streams, List.map_append, List.map_singleton, getElem?_snoc_iff]
    simp [and_comm]

lemma Ledger.remote (hl : Ledger st) {conn : Conn} (hconn : st.conns[k]? = some conn) :
    .connected k conn.remote ∈ st.history :=
  (hl.conns _ _).mpr (remotes_get hconn)

lemma Ledger.stream (hl : Ledger st) {s : InStream} (hs : st.streams[i]? = some s) :
    .openedBi s.conn i ∈ st.history :=
  (hl.streams _ _).mpr (by rw [List.getElem?_map, hs]; rfl)

lemma signedBy_signed {trust : Daemon.Trust.State} {call : Call} {e : Event}
    (he : e ∈ signedBy H trust call) : ∃ claims, e = .signed claims := by
  rw [signedBy] at he
  split at he
  · obtain ⟨p, _, rfl⟩ := List.mem_map.mp he
    exact ⟨p.1, rfl⟩
  · cases he

lemma ledger_step (hl : Ledger st) (hstep : Step H st l st') : Ledger st' := by
  cases hstep with
  | request =>
    refine hl.keep (fun e he => ?_) rfl rfl rfl
    obtain ⟨claims, rfl⟩ := signedBy_signed he
    exact id
  | connect => exact hl.connect _
  | openBi => exact hl.openBi _
  | allow hconn =>
    exact hl.keep (List.forall_mem_singleton.mpr id) rfl (remotes_set hconn _) rfl
  | refuse hconn => exact hl.keepAll rfl (remotes_set hconn _) rfl
  | bytes hs => exact hl.keepAll rfl rfl (map_set_same hs rfl)
  | acceptBi hconn hs => exact hl.keepAll rfl (remotes_set hconn _) (map_set_same hs rfl)
  | acceptEnds hconn => exact hl.keepAll rfl (remotes_set hconn _) rfl
  | readStreamOpen _ hs =>
    exact hl.keep (List.forall_mem_singleton.mpr id) rfl rfl (map_set_same hs rfl)
  | streamOpenFails hconn hs => exact hl.keepAll rfl (remotes_set hconn _) (map_set_same hs rfl)
  | verifyToken _ hs =>
    exact hl.keep (List.forall_mem_singleton.mpr id) rfl rfl (map_set_same hs rfl)
  | rejectToken hconn hs => exact hl.keepAll rfl (remotes_set hconn _) (map_set_same hs rfl)
  | spawnInboundMsg hconn hs => exact hl.keepAll rfl (remotes_set hconn _) (map_set_same hs rfl)
  | readFrame hs =>
    exact hl.keep (List.forall_mem_singleton.mpr id) rfl rfl (map_set_same hs rfl)
  | recvEnds hs => exact hl.keepAll rfl rfl (map_set_same hs rfl)
  | inboxRecord hs => exact hl.keepAll rfl rfl (map_set_same hs rfl)
  | inboxRecordFails hs => exact hl.keepAll rfl rfl (map_set_same hs rfl)
  | broadcast hs => exact hl.keepAll rfl rfl (map_set_same hs rfl)
  | restart => exact hl.keepAll rfl (by simp [remotes]) (by simp)
  | _ => exact hl.keepAll rfl rfl rfl

lemma ledger_initial : Ledger initial := ⟨by simp [initial, remotes], by simp [initial]⟩

def ConnOk (h : List Event) (k : ℕ) (conn : Conn) : Prop :=
  match conn.phase with
  | .connected => True
  | .accepting => Admitted h k conn.remote []
  | .serving _ => Admitted h k conn.remote []
  | .ended => True

structure TaskOk (H : Host) (h : List Event) (i k : ℕ) (t : RecvTask) : Prop where
  stream : Verified H h i k t.remote t.channel []
  queue : ∀ frame ∈ t.queue, Read H h i k t.remote t.channel frame
  owed : ∀ frame, t.owed = some frame → Read H h i k t.remote t.channel frame

def StreamOk (H : Host) (h : List Event) (i : ℕ) (s : InStream) : Prop :=
  match s.phase with
  | .waiting => True
  | .opening => True
  | .opened token c => ∃ R, Opened H h i s.conn R c token []
  | .verified c => ∃ R, Verified H h i s.conn R c []
  | .receiving t => TaskOk H h i s.conn t
  | .dropped => True

def Source (H : Host) (h : List Event) (R : NodeId) (c : String) (frame : MessageFrame) : Prop :=
  ∃ i k, Read H h i k R c frame

structure Invariant (H : Host) (st : State) : Prop where
  conns : ∀ k conn, st.conns[k]? = some conn → ConnOk st.history k conn
  streams : ∀ i s, st.streams[i]? = some s → StreamOk H st.history i s
  rows : ∀ r ∈ st.messages.rows, r.direction = .inbound →
    Source H st.history r.sender r.channel r.frame
  broadcasts : ∀ a ∈ st.broadcasts,
    Source H st.history a.sender a.channel ⟨a.seq, a.tsMs, a.payload⟩

lemma ConnOk.mono {conn : Conn} (hg : h <+: h') (hc : ConnOk h k conn) : ConnOk h' k conn := by
  unfold ConnOk at hc ⊢
  cases hphase : conn.phase with
  | connected => trivial
  | accepting => exact Admitted.mono hg (by simpa [hphase] using hc)
  | serving _ => exact Admitted.mono hg (by simpa [hphase] using hc)
  | ended => trivial

lemma TaskOk.mono {t : RecvTask} (hg : h <+: h') (ht : TaskOk H h i k t) : TaskOk H h' i k t where
  stream := ht.stream.mono hg
  queue frame hf := (ht.queue frame hf).mono hg
  owed frame hf := (ht.owed frame hf).mono hg

lemma StreamOk.mono {s : InStream} (hg : h <+: h') (hs : StreamOk H h i s) :
    StreamOk H h' i s := by
  unfold StreamOk at hs ⊢
  cases hphase : s.phase with
  | waiting => trivial
  | opening => trivial
  | opened token c =>
    obtain ⟨R, ho⟩ : ∃ R, Opened H h i s.conn R c token [] := by simpa [hphase] using hs
    exact ⟨R, ho.mono hg⟩
  | verified c =>
    obtain ⟨R, hv⟩ : ∃ R, Verified H h i s.conn R c [] := by simpa [hphase] using hs
    exact ⟨R, hv.mono hg⟩
  | receiving t => exact TaskOk.mono hg (by simpa [hphase] using hs)
  | dropped => trivial

lemma Source.mono {frame : MessageFrame} (hg : h <+: h') (hs : Source H h R c frame) :
    Source H h' R c frame := by
  obtain ⟨i, k, hr⟩ := hs
  exact ⟨i, k, hr.mono hg⟩

lemma Invariant.setConn (hi : Invariant H st) {conn : Conn} {events : List Event}
    (hok : ConnOk (st.history ++ events) k conn) :
    Invariant H { st with
      conns := st.conns.set k conn
      history := st.history ++ events } where
  conns j x hj := by
    rcases getElem?_set_cases hj with ⟨_, hj⟩ | ⟨rfl, rfl⟩
    · exact (hi.conns j x hj).mono (List.prefix_append _ _)
    · exact hok
  streams j x hj := (hi.streams j x hj).mono (List.prefix_append _ _)
  rows r hr hd := (hi.rows r hr hd).mono (List.prefix_append _ _)
  broadcasts a ha := (hi.broadcasts a ha).mono (List.prefix_append _ _)

lemma Invariant.setConnSame (hi : Invariant H st) {conn : Conn} (hok : ConnOk st.history k conn) :
    Invariant H { st with conns := st.conns.set k conn } := by
  have hset := @Invariant.setConn H st k hi conn [] (by rwa [List.append_nil])
  rwa [List.append_nil] at hset

lemma Invariant.setStream (hi : Invariant H st) {s : InStream} {events : List Event}
    (hok : StreamOk H (st.history ++ events) i s) :
    Invariant H { st with
      streams := st.streams.set i s
      history := st.history ++ events } where
  conns j x hj := (hi.conns j x hj).mono (List.prefix_append _ _)
  streams j x hj := by
    rcases getElem?_set_cases hj with ⟨_, hj⟩ | ⟨rfl, rfl⟩
    · exact (hi.streams j x hj).mono (List.prefix_append _ _)
    · exact hok
  rows r hr hd := (hi.rows r hr hd).mono (List.prefix_append _ _)
  broadcasts a ha := (hi.broadcasts a ha).mono (List.prefix_append _ _)

lemma Invariant.setStreamSame (hi : Invariant H st) {s : InStream}
    (hok : StreamOk H st.history i s) : Invariant H { st with streams := st.streams.set i s } := by
  have hset := @Invariant.setStream H st i hi s [] (by rwa [List.append_nil])
  rwa [List.append_nil] at hset

lemma Invariant.setMessages (hi : Invariant H st) {table : MessageTable}
    (hr : ∀ r ∈ table.rows, r.direction = .inbound →
      r ∈ st.messages.rows ∨ Source H st.history r.sender r.channel r.frame) :
    Invariant H { st with messages := table } where
  conns := hi.conns
  streams := hi.streams
  rows r hmem hd := (hr r hmem hd).elim (hi.rows r · hd) id
  broadcasts := hi.broadcasts

lemma Invariant.request (hi : Invariant H st) (trust : Daemon.Trust.State) (events : List Event) :
    Invariant H { st with trust := trust, history := st.history ++ events } where
  conns j x hj := (hi.conns j x hj).mono (List.prefix_append _ _)
  streams j x hj := (hi.streams j x hj).mono (List.prefix_append _ _)
  rows r hr hd := (hi.rows r hr hd).mono (List.prefix_append _ _)
  broadcasts a ha := (hi.broadcasts a ha).mono (List.prefix_append _ _)

lemma Invariant.connect (hi : Invariant H st) (remote : NodeId) (events : List Event) :
    Invariant H { st with
      conns := st.conns ++ [⟨remote, .connected⟩]
      history := st.history ++ events } where
  conns j x hj := by
    rcases getElem?_snoc_cases hj with hj | ⟨_, rfl⟩
    · exact (hi.conns j x hj).mono (List.prefix_append _ _)
    · trivial
  streams j x hj := (hi.streams j x hj).mono (List.prefix_append _ _)
  rows r hr hd := (hi.rows r hr hd).mono (List.prefix_append _ _)
  broadcasts a ha := (hi.broadcasts a ha).mono (List.prefix_append _ _)

lemma Invariant.openBi (hi : Invariant H st) (k : ℕ) (events : List Event) :
    Invariant H { st with
      streams := st.streams ++ [⟨k, [], .waiting⟩]
      history := st.history ++ events } where
  conns j x hj := (hi.conns j x hj).mono (List.prefix_append _ _)
  streams j x hj := by
    rcases getElem?_snoc_cases hj with hj | ⟨_, rfl⟩
    · exact (hi.streams j x hj).mono (List.prefix_append _ _)
    · trivial
  rows r hr hd := (hi.rows r hr hd).mono (List.prefix_append _ _)
  broadcasts a ha := (hi.broadcasts a ha).mono (List.prefix_append _ _)

lemma Invariant.restart (hi : Invariant H st) :
    Invariant H { st with
      conns := st.conns.map fun c => { c with phase := .ended }
      streams := st.streams.map fun s => { s with phase := .dropped } } where
  conns j x hj := by
    rw [List.getElem?_map] at hj
    obtain ⟨_, _, rfl⟩ := Option.map_eq_some_iff.mp hj
    trivial
  streams j x hj := by
    rw [List.getElem?_map] at hj
    obtain ⟨_, _, rfl⟩ := Option.map_eq_some_iff.mp hj
    trivial
  rows := hi.rows
  broadcasts := hi.broadcasts

lemma Invariant.accepting (hi : Invariant H st) {remote : NodeId}
    (hconn : st.conns[k]? = some ⟨remote, .accepting⟩) : Admitted st.history k remote [] :=
  hi.conns k _ hconn

lemma Invariant.serving (hi : Invariant H st) {remote : NodeId}
    (hconn : st.conns[k]? = some ⟨remote, .serving i⟩) : Admitted st.history k remote [] :=
  hi.conns k _ hconn

lemma Invariant.task (hi : Invariant H st) {unread : Bytes} {t : RecvTask}
    (hs : st.streams[i]? = some ⟨k, unread, .receiving t⟩) : TaskOk H st.history i k t :=
  hi.streams i _ hs

lemma peerKnown_ok {remote : NodeId} {fault : Option String}
    (hk : peerKnown st remote fault = .ok ()) :
    (st.trust.peers.peerGet (.nodeId remote)).isSome := by
  cases fault with
  | some e => simp [peerKnown, storeAnswer, requirePeerKnown] at hk
  | none =>
    cases hget : st.trust.peers.peerGet (.nodeId remote) with
    | none => simp [peerKnown, storeAnswer, requirePeerKnown, hget] at hk
    | some row => rfl

lemma Invariant.allow (hi : Invariant H st) (hl : Ledger st) {remote : NodeId}
    {fault : Option String} (hconn : st.conns[k]? = some ⟨remote, .connected⟩)
    (hknown : peerKnown st remote fault = .ok ()) :
    Invariant H { st with
      conns := st.conns.set k ⟨remote, .accepting⟩
      history := st.history ++ [.accepted k st.trust.peers] } := by
  have hremote : .connected k remote ∈ st.history ++ [.accepted k st.trust.peers] :=
    List.mem_append_left _ (hl.remote hconn)
  exact hi.setConn ⟨hremote, st.trust.peers, peerKnown_ok hknown, List.sublist_append_right _ _⟩

lemma Opened.remote_eq (hl : Ledger st) {token : SignedToken} {rest : List Event} {conn : Conn}
    (ho : Opened H st.history i k R c token rest) (hconn : st.conns[k]? = some conn) :
    R = conn.remote := by
  obtain ⟨_, _, _, hR, _⟩ := ho
  exact Option.some.inj (((hl.conns k R).mp hR).symm.trans (remotes_get hconn))

lemma Verified.remote_eq (hl : Ledger st) {rest : List Event} {conn : Conn}
    (hv : Verified H st.history i k R c rest) (hconn : st.conns[k]? = some conn) :
    R = conn.remote := by
  obtain ⟨_, _, _, _, _, _, ho⟩ := hv
  exact ho.remote_eq hl hconn

lemma inbound_after_enqueue {t t' : MessageTable} {channelId : String → ChannelId}
    {sender peer : NodeId} {channel : String} {payload : Bytes} {now : UInt64} {row r : MessageRow}
    (henq : t.outboxEnqueue channelId sender peer channel payload now = .ok (t', row))
    (hr : r ∈ t'.rows) (hd : r.direction = .inbound) : r ∈ t.rows := by
  obtain ⟨hrows, _, rfl⟩ := MessageTable.outboxEnqueue_ok henq
  rcases List.mem_append.mp (hrows ▸ hr) with hr | hr
  · exact hr
  · obtain rfl := List.mem_singleton.mp hr
    cases hd

lemma inbound_after_mark {t : MessageTable} {sender : NodeId} {cid : ChannelId} {seq now : UInt64}
    {r : MessageRow} (hr : r ∈ (t.outboxMarkDelivered sender cid seq now).rows)
    (hd : r.direction = .inbound) : r ∈ t.rows := by
  obtain ⟨o, ho, rfl⟩ := MessageTable.mem_outboxMarkDelivered.mp hr
  split at hd
  · next hcond => exact absurd hd (by simp [MessageRow.deliveredAt, hcond.2])
  · next hcond => rwa [if_neg hcond]

lemma Invariant.readFrame (hi : Invariant H st) {unread body rest : Bytes} {task : RecvTask}
    {frame : MessageFrame} (hs : st.streams[i]? = some ⟨k, unread, .receiving task⟩)
    (hframe : H.frames.decode body = .ok frame) :
    Invariant H { st with
      streams := st.streams.set i ⟨k, rest, .receiving { task with queue := task.queue ++ [frame] }⟩
      history := st.history ++ [.read i body] } := by
  have ht := hi.task hs
  have ht' := ht.mono (List.prefix_append _ [.read i body])
  exact hi.setStream ⟨ht'.stream, forall_mem_snoc ht'.queue (ht.stream.read hframe), ht'.owed⟩

lemma Invariant.inboxRecord (hi : Invariant H st) {unread : Bytes} {task : RecvTask}
    {frame : MessageFrame} {queue : List MessageFrame} {now : UInt64} {table : MessageTable}
    {recorded : Bool} (hs : st.streams[i]? = some ⟨k, unread, .receiving task⟩)
    (hqueue : task.queue = frame :: queue)
    (hrecord : st.messages.inboxRecord H.channelId task.remote task.channel frame now =
      (table, recorded)) :
    Invariant H { st with
      messages := table
      streams := st.streams.set i ⟨k, unread,
        .receiving { task with queue, owed := if recorded then some frame else none }⟩ } := by
  have ht := hi.task hs
  have hhead := ht.queue frame (by simp [hqueue])
  have htask : TaskOk H st.history i k
      { task with queue, owed := if recorded then some frame else none } := by
    refine ⟨ht.stream, fun f hf => ht.queue f (by simp [hqueue, hf]), fun f hf => ?_⟩
    cases recorded with
    | true => exact Option.some.inj hf ▸ hhead
    | false => cases hf
  refine (hi.setStreamSame (s := ⟨k, unread, .receiving _⟩) htask).setMessages fun r hr _ => ?_
  have hr' : r ∈ (st.messages.inboxRecord H.channelId task.remote task.channel frame
      now).1.rows := by rwa [hrecord]
  rcases Table.mem_insertOrIgnore.mp hr' with hr | ⟨rfl, _⟩
  · exact Or.inl hr
  · exact Or.inr ⟨i, k, hhead⟩

lemma Invariant.broadcast (hi : Invariant H st) {unread : Bytes} {task : RecvTask}
    {frame : MessageFrame} (hs : st.streams[i]? = some ⟨k, unread, .receiving task⟩)
    (howed : task.owed = some frame) :
    Invariant H { st with
      streams := st.streams.set i ⟨k, unread, .receiving { task with owed := none }⟩
      broadcasts := st.broadcasts ++
        [announcement task.remote task.fromName task.channel frame] } := by
  have ht := hi.task hs
  have htask : TaskOk H st.history i k { task with owed := none } :=
    ⟨ht.stream, ht.queue, fun _ hf => by cases hf⟩
  exact { hi.setStreamSame (s := ⟨k, unread, .receiving _⟩) htask with
    broadcasts := forall_mem_snoc hi.broadcasts ⟨i, k, ht.owed frame howed⟩ }

lemma invariant_step (hl : Ledger st) (hi : Invariant H st) (hstep : Step H st l st') :
    Invariant H st' := by
  cases hstep with
  | request => exact hi.request _ _
  | send henq =>
    exact hi.setMessages fun r hr hd => Or.inl (inbound_after_enqueue henq hr hd)
  | markDelivered => exact hi.setMessages fun r hr hd => Or.inl (inbound_after_mark hr hd)
  | connect => exact hi.connect _ _
  | allow hconn hknown => exact hi.allow hl hconn hknown
  | refuse hconn => exact hi.setConnSame trivial
  | openBi => exact hi.openBi _ _
  | bytes hs =>
    have hok := hi.streams _ _ hs
    exact hi.setStreamSame hok
  | acceptBi hconn =>
    exact (hi.setStreamSame (s := ⟨_, _, .opening⟩) trivial).setConnSame (hi.accepting hconn)
  | acceptEnds => exact hi.setConnSame trivial
  | readStreamOpen hconn hs _ hopen =>
    exact hi.setStream ⟨_, (hi.serving hconn).open (hl.stream hs) hopen⟩
  | streamOpenFails =>
    exact (hi.setStreamSame (s := ⟨_, _, .dropped⟩) trivial).setConnSame trivial
  | verifyToken hconn hs hverify =>
    obtain ⟨R, ho⟩ := hi.streams _ _ hs
    obtain rfl := ho.remote_eq hl hconn
    exact hi.setStream ⟨_, ho.verify hverify⟩
  | rejectToken hconn =>
    exact (hi.setStreamSame (s := ⟨_, _, .dropped⟩) trivial).setConnSame (hi.serving hconn)
  | spawnInboundMsg hconn hs =>
    obtain ⟨R, hv⟩ := hi.streams _ _ hs
    obtain rfl := hv.remote_eq hl hconn
    refine (hi.setStreamSame (s := ⟨_, _, .receiving _⟩) ?_).setConnSame (hi.serving hconn)
    exact ⟨hv, fun _ hf => (by cases hf), fun _ hf => (by cases hf)⟩
  | readFrame hs _ _ _ hframe => exact hi.readFrame hs hframe
  | recvEnds hs =>
    have ht := hi.task hs
    exact hi.setStreamSame ⟨ht.stream, ht.queue, ht.owed⟩
  | inboxRecord hs _ hqueue hrecord => exact hi.inboxRecord hs hqueue hrecord
  | inboxRecordFails hs _ hqueue =>
    have ht := hi.task hs
    refine hi.setStreamSame ⟨ht.stream, fun f hf => ht.queue f (by simp [hqueue, hf]), ?_⟩
    intro f hf
    exact Option.some.inj hf ▸ ht.queue _ (by simp [hqueue])
  | broadcast hs howed => exact hi.broadcast hs howed
  | restart => exact hi.restart

lemma invariant_initial : Invariant H initial where
  conns k conn hk := by cases hk
  streams i s hs := by cases hs
  rows r hr := by cases hr
  broadcasts a ha := by cases ha

lemma invariant_run {labels : List Label} (hrun : Run (Step H) initial labels st) :
    Ledger st ∧ Invariant H st := by
  refine hrun.invariant (I := fun st => Ledger st ∧ Invariant H st) ?_
    ⟨ledger_initial, invariant_initial⟩
  rintro s l t ⟨hl, hi⟩ hstep
  exact ⟨ledger_step hl hstep, invariant_step hl hi hstep⟩

structure OpenedOnce (st : State) : Prop where
  fresh : ∀ i s, st.streams[i]? = some s → s.phase = .waiting ∨ s.phase = .opening →
    ∀ body, .opened i body ∉ st.history
  bound : ∀ i body, .opened i body ∈ st.history → i < st.streams.length
  once : ∀ i body body', .opened i body ∈ st.history → .opened i body' ∈ st.history → body = body'

lemma OpenedOnce.update (ho : OpenedOnce st)
    (hh : ∀ i body, .opened i body ∈ st'.history → .opened i body ∈ st.history)
    (hl : st.streams.length ≤ st'.streams.length)
    (hs : ∀ i s, st'.streams[i]? = some s → s.phase = .waiting ∨ s.phase = .opening →
      (∃ s', st.streams[i]? = some s' ∧ (s'.phase = .waiting ∨ s'.phase = .opening)) ∨
        st.streams.length ≤ i) : OpenedOnce st' where
  fresh i s hi hp body hb := by
    rcases hs i s hi hp with ⟨s', hs', hp'⟩ | hle
    · exact ho.fresh i s' hs' hp' body (hh i body hb)
    · have hlt := ho.bound i body (hh i body hb)
      omega
  bound i body hb := Nat.lt_of_lt_of_le (ho.bound i body (hh i body hb)) hl
  once i body body' hb hb' := ho.once i body body' (hh i body hb) (hh i body' hb')

lemma opened_snoc {h : List Event} {i : ℕ} {body : Bytes} {e : Event}
    (he : ∀ i body, e ≠ .opened i body) (hb : .opened i body ∈ h ++ [e]) : .opened i body ∈ h := by
  rcases List.mem_append.mp hb with hb | hb
  · exact hb
  · exact (he i body (List.mem_singleton.mp hb).symm).elim

lemma OpenedOnce.setStream (ho : OpenedOnce st) {i : ℕ} {s s' : InStream}
    (hget : st.streams[i]? = some s) (hp : s'.phase = .waiting ∨ s'.phase = .opening →
      s.phase = .waiting ∨ s.phase = .opening) (hst : st'.streams = st.streams.set i s')
    (hh : ∀ i body, .opened i body ∈ st'.history → .opened i body ∈ st.history) :
    OpenedOnce st' := by
  refine ho.update hh (by simp [hst]) fun j x hj hx => Or.inl ?_
  rw [hst] at hj
  rcases getElem?_set_cases hj with ⟨_, hj⟩ | ⟨rfl, rfl⟩
  · exact ⟨x, hj, hx⟩
  · exact ⟨s, hget, hp hx⟩

lemma OpenedOnce.readStreamOpen (ho : OpenedOnce st) {i k : ℕ} {unread rest body : Bytes}
    {token : SignedToken} {channel : String}
    (hs : st.streams[i]? = some ⟨k, unread, .opening⟩) :
    OpenedOnce { st with
      streams := st.streams.set i ⟨k, rest, .opened token channel⟩
      history := st.history ++ [.opened i body] } := by
  have hnone := ho.fresh i _ hs (Or.inr rfl)
  have hcases : ∀ j b, .opened j b ∈ st.history ++ [.opened i body] →
      (j ≠ i ∧ .opened j b ∈ st.history) ∨ (j = i ∧ b = body) := by
    intro j b hb
    rcases List.mem_append.mp hb with hold | hnew
    · by_cases hj : j = i
      · exact (hnone b (hj ▸ hold)).elim
      · exact Or.inl ⟨hj, hold⟩
    · exact Or.inr (Event.opened.inj (List.mem_singleton.mp hnew))
  refine ⟨fun j s hj hp b hb => ?_, fun j b hb => ?_, fun j b b' hb hb' => ?_⟩
  · rcases getElem?_set_cases hj with ⟨hne, hj⟩ | ⟨_, rfl⟩
    · rcases hcases j b hb with ⟨_, hold⟩ | ⟨he, _⟩
      · exact ho.fresh j s hj hp b hold
      · exact hne he
    · rcases hp with hp | hp <;> cases hp
  · simp only [List.length_set]
    rcases hcases j b hb with ⟨_, hold⟩ | ⟨rfl, _⟩
    · exact ho.bound j b hold
    · exact (List.getElem?_eq_some_iff.mp hs).1
  · rcases hcases j b hb with ⟨hne, hold⟩ | ⟨he, heb⟩ <;>
      rcases hcases j b' hb' with ⟨hne', hold'⟩ | ⟨he', heb'⟩
    · exact ho.once j b b' hold hold'
    · exact (hne he').elim
    · exact (hne' he).elim
    · exact heb.trans heb'.symm

lemma signedBy_opened {trust : Daemon.Trust.State} {call : Call} {i : ℕ} {body : Bytes} :
    .opened i body ∉ signedBy H trust call := by
  intro he
  obtain ⟨claims, he⟩ := signedBy_signed he
  cases he

lemma openedOnce_step (ho : OpenedOnce st) (hstep : Step H st l st') : OpenedOnce st' := by
  have hsame : ∀ i s, st.streams[i]? = some s → s.phase = .waiting ∨ s.phase = .opening →
      (∃ s', st.streams[i]? = some s' ∧ (s'.phase = .waiting ∨ s'.phase = .opening)) ∨
        st.streams.length ≤ i := fun i s hs hp => Or.inl ⟨s, hs, hp⟩
  cases hstep with
  | request =>
    refine ho.update (fun i body hb => ?_) le_rfl hsame
    exact (List.mem_append.mp hb).resolve_right signedBy_opened
  | allow => exact ho.update (fun _ _ hb => opened_snoc (by simp) hb) le_rfl hsame
  | connect => exact ho.update (fun _ _ hb => opened_snoc (by simp) hb) le_rfl hsame
  | openBi =>
    refine ho.update (fun _ _ hb => opened_snoc (by simp) hb) (by simp) fun i s hs hp => ?_
    rcases getElem?_snoc_cases hs with hs | ⟨rfl, _⟩
    · exact hsame i s hs hp
    · exact Or.inr le_rfl
  | @bytes i bs s hs =>
    have hp : ({ s with unread := s.unread ++ bs } : InStream).phase = .waiting ∨
        ({ s with unread := s.unread ++ bs } : InStream).phase = .opening →
          s.phase = .waiting ∨ s.phase = .opening := fun hp => hp
    exact ho.setStream hs hp rfl fun _ _ hb => hb
  | acceptBi _ hs => exact ho.setStream hs (fun _ => Or.inl rfl) rfl fun _ _ hb => hb
  | readStreamOpen _ hs => exact ho.readStreamOpen hs
  | streamOpenFails _ hs => exact ho.setStream hs (fun _ => Or.inr rfl) rfl fun _ _ hb => hb
  | verifyToken _ hs =>
    exact ho.setStream hs (by simp) rfl fun _ _ hb => opened_snoc (by simp) hb
  | rejectToken _ hs => exact ho.setStream hs (by simp) rfl fun _ _ hb => hb
  | spawnInboundMsg _ hs => exact ho.setStream hs (by simp) rfl fun _ _ hb => hb
  | readFrame hs => exact ho.setStream hs (by simp) rfl fun _ _ hb => opened_snoc (by simp) hb
  | recvEnds hs => exact ho.setStream hs (by simp) rfl fun _ _ hb => hb
  | inboxRecord hs => exact ho.setStream hs (by simp) rfl fun _ _ hb => hb
  | inboxRecordFails hs => exact ho.setStream hs (by simp) rfl fun _ _ hb => hb
  | broadcast hs => exact ho.setStream hs (by simp) rfl fun _ _ hb => hb
  | restart =>
    refine ho.update (fun _ _ hb => hb) (by simp) fun i s hs hp => ?_
    rw [List.getElem?_map] at hs
    obtain ⟨s', _, rfl⟩ := Option.map_eq_some_iff.mp hs
    rcases hp with hp | hp <;> cases hp
  | _ => exact ho.update (fun _ _ hb => hb) le_rfl hsame

lemma openedOnce_run {labels : List Label} (hrun : Run (Step H) initial labels st) :
    OpenedOnce st := by
  refine hrun.invariant (fun _ _ _ ho hs => openedOnce_step ho hs) ⟨?_, ?_, ?_⟩
  · intro i s hs
    cases hs
  · intro i body hb
    cases hb
  · intro i body body' hb
    cases hb

structure Passage where
  conn : ℕ
  stream : ℕ
  peers : PeerTable
  openBody : Bytes
  initiator : NodeId
  token : SignedToken
  now : UInt64
  fault : Option String
  tokens : TokenTable
  claims : CapabilityToken
  frameBody : Bytes

namespace Passage

def opened (p : Passage) : Event := .opened p.stream p.openBody

def verified (p : Passage) : Event :=
  .verified p.stream p.initiator p.token p.now p.fault p.tokens p.claims

def read (p : Passage) : Event := .read p.stream p.frameBody

structure Carries (H : Host) (st : State) (p : Passage) (R : NodeId) (c : String)
    (frame : MessageFrame) : Prop where
  remote : ∀ R', .connected p.conn R' ∈ st.history ↔ R' = R
  openedOn : ∀ k, .openedBi k p.stream ∈ st.history ↔ k = p.conn
  known : (p.peers.peerGet (.nodeId R)).isSome
  openFrame : H.opens.decode p.openBody = .ok (.msg p.token c)
  initiator : p.initiator = R
  authorised : verifyStream H p.tokens p.initiator p.token p.now p.fault = .ok p.claims
  message : H.frames.decode p.frameBody = .ok frame
  order : [.accepted p.conn p.peers, p.opened, p.verified, p.read].Sublist st.history

structure SignedHere (H : Host) (st : State) (p : Passage) (R : NodeId) : Prop where
  issuer : p.claims.iss = H.nodeid
  subject : p.claims.sub = R
  cap : .msg ∈ p.claims.caps
  unexpired : p.now.toNat < 2 ^ 63 → p.now.toNat ≤ p.claims.exp.toNat + 300
  unrevoked : p.fault = none → ∀ row ∈ p.tokens.rows, row.id = p.claims.id → row.revoked = false
  order : [.signed p.claims, p.opened, p.verified, p.read].Sublist st.history

end Passage

lemma Ledger.remote_iff (hl : Ledger st) (hR : .connected k R ∈ st.history) (R' : NodeId) :
    .connected k R' ∈ st.history ↔ R' = R := by
  have hget := (hl.conns k R).mp hR
  rw [hl.conns, hget, Option.some_inj]
  exact eq_comm

lemma Ledger.openedOn_iff (hl : Ledger st) (hon : .openedBi k i ∈ st.history) (k' : ℕ) :
    .openedBi k' i ∈ st.history ↔ k' = k := by
  have hget := (hl.streams i k).mp hon
  rw [hl.streams, hget, Option.some_inj]
  exact eq_comm

lemma Source.passage (hl : Ledger st) {frame : MessageFrame} (hs : Source H st.history R c frame) :
    ∃ p : Passage, p.Carries H st R c frame := by
  obtain ⟨i, k, body, hb, token, now, fault, tokens, claims, hok, hon, openBody, hopen, hR, peers,
    hp, horder⟩ := hs
  exact ⟨⟨k, i, peers, openBody, R, token, now, fault, tokens, claims, body⟩, hl.remote_iff hR,
    hl.openedOn_iff hon, hp, hopen, rfl, hok, hb, horder⟩

def Unforged (H : Host) (st : State) : Label → Prop
  | .readStreamOpen k => ∀ remote i unread body rest token channel,
    st.conns[k]? = some ⟨remote, .serving i⟩ → st.streams[i]? = some ⟨k, unread, .opening⟩ →
    readCborFrame unread = .frame body rest → H.opens.decode body = .ok (.msg token channel) →
    H.lib.ed.verify (H.lib.ed.publicOf H.secret) token.claimsCbor token.sig = true →
    ∃ claims, .signed claims ∈ st.history ∧ H.lib.claims.encode claims = token.claimsCbor
  | _ => True

def Presented (H : Host) (h : List Event) : Prop :=
  ∀ front i body back token channel, h = front ++ .opened i body :: back →
    H.opens.decode body = .ok (.msg token channel) →
    H.lib.ed.verify (H.lib.ed.publicOf H.secret) token.claimsCbor token.sig = true →
    ∃ claims, .signed claims ∈ front ∧ H.lib.claims.encode claims = token.claimsCbor

lemma Presented.append {events : List Event} (hp : Presented H h)
    (hno : ∀ i body, .opened i body ∉ events) : Presented H (h ++ events) := by
  intro front i body back token channel heq hopen hverify
  rcases List.append_eq_append_iff.mp heq with ⟨mid, _, hev⟩ | ⟨mid, hh, hev⟩
  · exact (hno i body (by simp [hev])).elim
  · cases mid with
    | nil =>
      have hev' : events = .opened i body :: back := hev.symm
      exact (hno i body (by simp [hev'])).elim
    | cons e mid =>
      obtain ⟨rfl, _⟩ := List.cons.inj hev
      exact hp front i body mid token channel hh hopen hverify

lemma Presented.opened {i : ℕ} {body : Bytes} (hp : Presented H h)
    (hnew : ∀ token channel, H.opens.decode body = .ok (.msg token channel) →
      H.lib.ed.verify (H.lib.ed.publicOf H.secret) token.claimsCbor token.sig = true →
      ∃ claims, .signed claims ∈ h ∧ H.lib.claims.encode claims = token.claimsCbor) :
    Presented H (h ++ [.opened i body]) := by
  intro front j b back token channel heq hopen hverify
  rcases List.eq_nil_or_concat back with rfl | ⟨back, e, rfl⟩
  · obtain ⟨rfl, he⟩ := List.append_inj' heq rfl
    obtain ⟨_, rfl⟩ := Event.opened.inj (List.cons.inj he).1
    exact hnew token channel hopen hverify
  · have hfront : h = front ++ .opened j b :: back := by
      rw [List.concat_eq_append, ← List.cons_append, ← List.append_assoc] at heq
      exact (List.append_inj' heq rfl).1
    exact hp front j b back token channel hfront hopen hverify

lemma presented_step (hp : Presented H st.history) (hu : Unforged H st l)
    (hstep : Step H st l st') : Presented H st'.history := by
  cases hstep with
  | request => exact hp.append fun i body => signedBy_opened
  | connect => exact hp.append (by simp)
  | allow => exact hp.append (by simp)
  | openBi => exact hp.append (by simp)
  | readStreamOpen hconn hs hread hopen =>
    exact hp.opened fun _ _ hopen hverify => hu _ _ _ _ _ _ _ hconn hs hread hopen hverify
  | verifyToken => exact hp.append (by simp)
  | readFrame => exact hp.append (by simp)
  | _ => exact hp

lemma presented_run {labels : List Label}
    (hrun : Run (Guarded (Unforged H) (Step H)) initial labels st) : Presented H st.history := by
  refine hrun.invariant (I := fun st => Presented H st.history) ?_ ?_
  · rintro s l t hp ⟨hu, hstep⟩
    exact presented_step hp hu hstep
  · intro front i body back token channel heq
    simp [initial] at heq

lemma sublist_cons_split {e : Event} {rest h : List Event} (hs : (e :: rest).Sublist h) :
    ∃ front back, h = front ++ e :: back ∧ rest.Sublist back := by
  obtain ⟨front, back, rfl, he, hr⟩ := List.cons_sublist_iff.mp hs
  obtain ⟨before, after, rfl⟩ := List.append_of_mem he
  exact ⟨before, after ++ back, by simp, hr.trans (List.sublist_append_right _ _)⟩

lemma verifyStream_ok {tokens : TokenTable} {remote : NodeId} {token : SignedToken} {now : UInt64}
    {fault : Option String} {claims : CapabilityToken}
    (hv : verifyStream H tokens remote token now fault = .ok claims) :
    verifySignedClaims H.lib token = .ok claims ∧ claims.iss = H.nodeid ∧ claims.sub = remote ∧
      .msg ∈ claims.caps ∧ ¬ now.toInt64 - clockSkewSecs > claims.exp.toInt64 ∧
      (fault = none → ∀ row ∈ tokens.rows, row.id = claims.id → row.revoked = false) := by
  obtain ⟨hsigned, hiss, hsub, hvalid⟩ := verifyToken_ok.mp hv
  obtain ⟨hskew, hrev, hcap⟩ := validateClaims_ok.mp hvalid
  refine ⟨hsigned, hiss, hsub, hcap, hskew, ?_⟩
  rintro rfl row hrow hid
  have hfind : tokens.tokenFind claims.id = some row := Table.find_eq_some.mpr ⟨hrow, hid⟩
  exact hrev row (by rw [hfind]; rfl)

lemma Passage.Carries.signedHere {p : Passage} {frame : MessageFrame}
    (hc : p.Carries H st R c frame) (hp : Presented H st.history) : p.SignedHere H st R := by
  obtain ⟨hsigned, hiss, hsub, hcap, hskew, hrev⟩ := verifyStream_ok hc.authorised
  obtain ⟨hdecode, pk, hpk, hverify⟩ := verifySignedClaims_ok hsigned
  obtain rfl : H.lib.ed.publicOf H.secret = pk := by
    rw [hiss, Host.nodeid, nodeidOf, H.lib.ed.fromBytes_asBytes] at hpk
    exact Option.some.inj hpk
  obtain ⟨front, back, hsplit, hrest⟩ := sublist_cons_split (List.sublist_of_cons_sublist hc.order)
  obtain ⟨claims, hmem, hencode⟩ := hp front _ _ back _ _ hsplit hc.openFrame hverify
  obtain rfl : claims = p.claims := by
    rw [← hencode, H.lib.claims.decode_encode] at hdecode
    exact Except.ok.inj hdecode
  refine ⟨hiss, hsub.trans hc.initiator, hcap, within_skew hskew, hrev, ?_⟩
  rw [hsplit]
  exact (List.singleton_sublist.mpr hmem).append (hrest.cons_cons _)

theorem inbound_authorised_at_stream_open {labels : List Label}
    (hrun : Run (Step H) initial labels st) :
    (∀ r ∈ st.messages.rows, r.direction = .inbound →
      ∃ p : Passage, p.Carries H st r.sender r.channel r.frame) ∧
    (∀ a ∈ st.broadcasts,
      ∃ p : Passage, p.Carries H st a.sender a.channel ⟨a.seq, a.tsMs, a.payload⟩) ∧
    (∀ i body body', .opened i body ∈ st.history → .opened i body' ∈ st.history → body = body') ∧
    (Run (Guarded (Unforged H) (Step H)) initial labels st → ∀ (p : Passage) R c frame,
      p.Carries H st R c frame → p.SignedHere H st R) := by
  obtain ⟨hl, hi⟩ := invariant_run hrun
  refine ⟨fun r hr hd => (hi.rows r hr hd).passage hl, fun a ha => (hi.broadcasts a ha).passage hl,
    (openedOnce_run hrun).once, fun hunforged p R c frame hc => ?_⟩
  exact hc.signedHere (presented_run hunforged)

def bob : Host :=
  ⟨Sample.libraries, Sample.node 2, Sample.channelId, Sample.openCodec, Sample.frameCodec⟩

def wire (body : Bytes) : Bytes :=
  0 :: 0 :: UInt8.ofNat (body.length / 256) :: UInt8.ofNat (body.length % 256) :: body

def addCall : Call := ⟨.peerAdd (Sample.node 1) "alice" none, 1000, 1000, Sample.tokenId 0⟩

def grantCall : Call := ⟨.tokenGrant (.name "alice") [.msg] none, 1000, 1000, Sample.tokenId 7⟩

def aliceToken : CapabilityToken × SignedToken :=
  signToken Sample.libraries (Sample.node 2) (Sample.node 1) [.msg] none 1000 (Sample.tokenId 7)

def introduced : Daemon.Trust.State :=
  (dispatch Sample.libraries (Sample.node 2) Daemon.Trust.initial addCall).1

def trusting : Daemon.Trust.State :=
  (dispatch Sample.libraries (Sample.node 2) introduced grantCall).1

def openBody : Bytes := Sample.encodeOpen (.msg aliceToken.2 "a")

def openLabels : List Label :=
  [.request addCall, .request grantCall, .connect (Sample.node 1), .requirePeerKnown 0 none,
    .openBi 0, .bytes 0 (wire openBody), .acceptBi 0 0, .readStreamOpen 0, .verifyToken 0 1000 none,
    .spawnInboundMsg 0 none]

def aliceTask : RecvTask := ⟨Sample.node 1, some "alice", "a", true, [], none⟩

def openHistory : List Event :=
  [.signed aliceToken.1, .connected 0 (Sample.node 1), .accepted 0 trusting.peers, .openedBi 0 0,
    .opened 0 openBody, .verified 0 (Sample.node 1) aliceToken.2 1000 none trusting.tokens aliceToken.1]

def streaming : State :=
  ⟨trusting, Table.empty, [⟨Sample.node 1, .accepting⟩], [⟨0, [], .receiving aliceTask⟩], [],
    openHistory⟩

lemma grant_signs : signedBy bob introduced grantCall = [.signed aliceToken.1] := by
  have hget : introduced.peers.peerGet (.name "alice") =
      some ⟨Sample.node 1, "alice", 1000, none, none⟩ := by decide +kernel
  simp [signedBy, written, grantCall, selToBytes, hget, aliceToken, bob]

lemma read_open : readCborFrame (wire openBody) = .frame openBody [] := by
  decide +kernel

lemma stream_run : Run (Guarded (Unforged bob) (Step bob)) initial openLabels streaming := by
  have hgrant := @Step.request bob ⟨introduced, Table.empty, [], [], [], []⟩ grantCall
  rw [grant_signs] at hgrant
  have hknown : ∀ st : State, st.trust = trusting → peerKnown st (Sample.node 1) none = .ok () := by
    rintro st hst
    rw [peerKnown, hst]
    decide +kernel
  have hopen : Sample.decodeOpen openBody = .ok (.msg aliceToken.2 "a") :=
    Sample.decodeOpen_encodeOpen _
  have hverify : verifyStream bob trusting.tokens (Sample.node 1) aliceToken.2 1000 none =
      .ok aliceToken.1 := by decide +kernel
  refine .cons ⟨trivial, .request⟩ (.cons ⟨trivial, hgrant⟩ (.cons ⟨trivial, .connect⟩ ?_))
  refine .cons ⟨trivial, .allow rfl (hknown _ rfl)⟩ (.cons ⟨trivial, .openBi rfl⟩ ?_)
  refine .cons ⟨trivial, .bytes rfl⟩ (.cons ⟨trivial, .acceptBi rfl rfl⟩ ?_)
  refine .cons ⟨?_, .readStreamOpen rfl rfl read_open hopen⟩ ?_
  · intro remote i unread body rest token channel hconn hs hread hdecode _
    obtain rfl : 0 = i := ConnPhase.serving.inj (congrArg Conn.phase (Option.some.inj hconn))
    obtain rfl : wire openBody = unread := congrArg InStream.unread (Option.some.inj hs)
    obtain ⟨rfl, _⟩ := FrameRead.frame.inj (read_open.symm.trans hread)
    obtain ⟨rfl, _⟩ := StreamOpen.msg.inj (Except.ok.inj (hopen.symm.trans hdecode))
    exact ⟨aliceToken.1, by simp, rfl⟩
  refine .cons ⟨trivial, .verifyToken rfl rfl hverify⟩ ?_
  have hname : peerName ⟨trusting, Table.empty, [⟨Sample.node 1, .serving 0⟩],
      [⟨0, [], .verified "a"⟩], [], openHistory⟩ (Sample.node 1) none = some "alice" := by
    decide +kernel
  have hspawn := @Step.spawnInboundMsg bob ⟨trusting, Table.empty, [⟨Sample.node 1, .serving 0⟩],
      [⟨0, [], .verified "a"⟩], [], openHistory⟩ 0 none 0 (Sample.node 1) [] "a" rfl rfl
  rw [hname] at hspawn
  exact .single ⟨trivial, hspawn⟩

def hello : MessageFrame := ⟨1, 5, [104, 105]⟩

def helloBody : Bytes := Sample.encodeFrame hello

def frameLabels : List Label := [.bytes 0 (wire helloBody), .readFrame 0, .inboxRecord 0 9, .broadcast 0]

def helloRow : MessageRow := MessageTable.inboundRow Sample.channelId (Sample.node 1) "a" hello 9

def received (st : State) : State :=
  { st with
    messages := ⟨[helloRow], List.nodup_singleton _⟩
    broadcasts := [announcement (Sample.node 1) (some "alice") "a" hello]
    history := st.history ++ [.read 0 helloBody] }

lemma frame_run {st : State} (hs : st.streams = [⟨0, [], .receiving aliceTask⟩])
    (hm : st.messages = Table.empty) (hb : st.broadcasts = []) :
    Run (Guarded (Unforged bob) (Step bob)) st frameLabels (received st) := by
  obtain ⟨trust, messages, conns, streams, broadcasts, history⟩ := st
  obtain rfl := hs
  obtain rfl := hm
  obtain rfl := hb
  have hread : readCborFrame (wire helloBody) = .frame helloBody [] := by decide +kernel
  have hframe := Sample.decodeFrame_encodeFrame hello
  have hrecord : MessageTable.inboxRecord Table.empty Sample.channelId (Sample.node 1) "a" hello 9 =
    (⟨[helloRow], List.nodup_singleton _⟩, true) := rfl
  refine .cons ⟨trivial, .bytes rfl⟩ ?_
  refine .cons ⟨trivial, .readFrame rfl rfl (by decide) hread hframe⟩ ?_
  refine .cons ⟨trivial, .inboxRecord rfl rfl rfl hrecord⟩ ?_
  have hbroadcast := @Step.broadcast bob ⟨trust, ⟨[helloRow], List.nodup_singleton _⟩, conns,
    [⟨0, [], .receiving { aliceTask with owed := some hello }⟩], [],
    history ++ [.read 0 helloBody]⟩ 0 0 [] _ hello rfl rfl
  exact .single ⟨trivial, hbroadcast⟩

theorem inbound_authorised_at_stream_open_hello :
    ∃ p : Passage, p.Carries bob (received streaming) (Sample.node 1) "a" hello ∧
      p.SignedHere bob (received streaming) (Sample.node 1) := by
  have hrun := stream_run.append (@frame_run streaming rfl rfl rfl)
  have h := inbound_authorised_at_stream_open hrun.forget
  obtain ⟨p, hp⟩ := h.1 helloRow (List.mem_singleton_self _) rfl
  exact ⟨p, hp, h.2.2.2 hrun p _ _ _ hp⟩

end WalkieTalkie.Delivery.Inbound
