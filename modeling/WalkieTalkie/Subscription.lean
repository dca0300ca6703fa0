import WalkieTalkie.Lib.Utf8
import WalkieTalkie.Sample
import WalkieTalkie.Store.Messages

/-! A subscription to inbound messages: the events that `RecvSubscribe` writes, and the two client
loops that read them, `wt recv` and the receive task of `wt chat`. `lookup` is what `peer_get`
answers, a failed read being none. A client's input ends where its connection ends. -/

namespace WalkieTalkie.Subscription

open Proto Store Lib

structure RecvMsg where
  sender : NodeId
  fromName : Option String
  channel : String
  payload : Bytes
  tsMs : UInt64
deriving DecidableEq

inductive IpcEvent
  | ok
  | err (e : IpcError)
  | recvMsg (m : RecvMsg)
  | recvBacklogEnd
deriving DecidableEq

structure Request where
  peer : Option PeerSelector
  channel : Option String
  sinceMs : Option UInt64
  follow : Bool

/-- What `rx.recv()` of the broadcast channel gives. -/
inductive Received
  | event (ev : IpcEvent)
  | lagged
  | closed

section Daemon

variable (lookup : PeerSelectorBytes → Option PeerRow)

def wantPeer : Option PeerSelector → Option NodeId
  | some (.nodeId n) => some n
  | some (.name n) => (lookup (.name n)).map PeerRow.nodeid
  | none => none

def passes (peer : Option NodeId) (channel : Option String) : IpcEvent → Bool
  | .recvMsg m => peer.all (· = m.sender) && channel.all (· = m.channel)
  | _ => false

def liveTail (peer : Option NodeId) (channel : Option String) : List Received → List IpcEvent
  | [] => []
  | .event ev :: rest =>
    if passes peer channel ev then ev :: liveTail peer channel rest else liveTail peer channel rest
  | .lagged :: rest => liveTail peer channel rest
  | .closed :: _ => []

def backlogMsg (fromName : Option String) (row : MessageRow) : IpcEvent :=
  .recvMsg ⟨row.sender, fromName, row.channel, row.payload, row.enqueuedAtMs⟩

/-- The events that the daemon writes for a request. The names are looked up row by row, so the
table of peers may differ from one row to the next; `lost` is a connection that breaks. -/
inductive Writes (table : MessageTable) (r : Request) : List IpcEvent → Prop
  | failed (e : String) : Writes table r [.err ⟨.internal, e⟩]
  | served {rows : List MessageRow}
      (hrows : table.InboxBacklog (wantPeer lookup r.peer) r.channel r.sinceMs 10000 rows)
      (names : List (Option String)) (hnames : names.length = rows.length)
      (live : List Received) :
      Writes table r (List.zipWith backlogMsg names rows ++ .recvBacklogEnd ::
        if r.follow then liveTail (wantPeer lookup r.peer) r.channel live else [])
  | lost {evs before : List IpcEvent} (h : Writes table r evs) (hb : before <+: evs) :
      Writes table r before

end Daemon

structure SerdeJson where
  Value : Type
  fromSlice : Bytes → Option Value
  string : String → Value
  toLine : String → String → UInt64 → Value → String

inductive Stop
  | disconnected
  | onEvent (ev : IpcEvent)
deriving DecidableEq

def RecvMsg.name (m : RecvMsg) : String := m.fromName.getD m.sender.display

def RecvMsg.text (m : RecvMsg) : String := Utf8.fromUtf8Lossy m.payload

def recvLine (json : SerdeJson) (m : RecvMsg) : String :=
  json.toLine m.name m.channel m.tsMs ((json.fromSlice m.payload).getD (json.string m.text))

def chatLine (m : RecvMsg) : String := "[" ++ m.name ++ "] " ++ m.text

def cmdRecv (json : SerdeJson) (follow : Bool) : List IpcEvent → List String × Stop
  | [] => ([], .disconnected)
  | .recvMsg m :: rest =>
    let (lines, stop) := cmdRecv json follow rest
    (recvLine json m :: lines, stop)
  | .recvBacklogEnd :: rest =>
    if follow then cmdRecv json follow rest else ([], .onEvent .recvBacklogEnd)
  | ev :: _ => ([], .onEvent ev)

def cmdChat : List IpcEvent → List String × Stop
  | [] => ([], .disconnected)
  | .recvMsg m :: rest =>
    let (lines, stop) := cmdChat rest
    (chatLine m :: lines, stop)
  | ev :: _ => ([], .onEvent ev)

def messages (evs : List IpcEvent) : List RecvMsg :=
  evs.filterMap fun
    | .recvMsg m => some m
    | _ => none

/-- A client shows every message in order and stops only on an error or a lost connection. -/
def Understands (client : List IpcEvent → List String × Stop) (line : RecvMsg → String)
    (evs : List IpcEvent) : Prop :=
  (client evs).1 = (messages evs).map line ∧
    ((client evs).2 = .disconnected ∨ ∃ e, (client evs).2 = .onEvent (.err e))

def Clean (evs : List IpcEvent) : Prop :=
  ∀ ev ∈ evs, (∃ m, ev = .recvMsg m) ∨ ev = .recvBacklogEnd

variable {lookup : PeerSelectorBytes → Option PeerRow} {table : MessageTable} {r : Request}
  {evs : List IpcEvent}

lemma mem_liveTail {peer : Option NodeId} {channel : Option String} {live : List Received}
    {ev : IpcEvent} (h : ev ∈ liveTail peer channel live) : passes peer channel ev = true := by
  induction live with
  | nil => cases h
  | cons x rest ih =>
    cases x with
    | event e =>
      rw [liveTail] at h
      split at h
      · next hp =>
        rcases List.mem_cons.mp h with rfl | h
        · exact hp
        · exact ih h
      · exact ih h
    | lagged => exact ih h
    | closed => cases h

lemma liveTail_msg {peer : Option NodeId} {channel : Option String} {live : List Received}
    {ev : IpcEvent} (h : ev ∈ liveTail peer channel live) : ∃ m, ev = .recvMsg m := by
  have hpasses := mem_liveTail h
  cases ev with
  | recvMsg m => exact ⟨m, rfl⟩
  | _ => cases hpasses

lemma backlog_msg {names : List (Option String)} {rows : List MessageRow} {ev : IpcEvent}
    (h : ev ∈ List.zipWith backlogMsg names rows) : ∃ m, ev = .recvMsg m := by
  obtain ⟨_, _, _, _, rfl⟩ := of_mem_zipWith h
  exact ⟨_, rfl⟩

lemma writes_cases (h : Writes lookup table r evs) : (∃ e, evs = [.err e]) ∨ Clean evs := by
  induction h with
  | failed e => exact Or.inl ⟨_, rfl⟩
  | served hrows names hnames live =>
    refine Or.inr fun ev hev => ?_
    rcases List.mem_append.mp hev with hev | hev
    · exact Or.inl (backlog_msg hev)
    · rcases List.mem_cons.mp hev with rfl | hev
      · exact Or.inr rfl
      · split at hev
        · exact Or.inl (liveTail_msg hev)
        · cases hev
  | lost h hb ih =>
    rcases ih with ⟨e, rfl⟩ | hc
    · rcases List.prefix_cons_iff.mp hb with rfl | ⟨rest, rfl, hrest⟩
      · exact Or.inr fun ev hev => by cases hev
      · rw [List.prefix_nil.mp hrest]
        exact Or.inl ⟨e, rfl⟩
    · exact Or.inr fun ev hev => hc ev (hb.subset hev)

lemma cmdRecv_clean (json : SerdeJson) (h : Clean evs) :
    cmdRecv json true evs = ((messages evs).map (recvLine json), .disconnected) := by
  induction evs with
  | nil => rfl
  | cons ev evs ih =>
    have ih := ih fun ev hev => h ev (List.mem_cons_of_mem _ hev)
    rcases h ev List.mem_cons_self with ⟨m, rfl⟩ | rfl
    · rw [cmdRecv, ih]
      rfl
    · rw [cmdRecv, if_pos rfl, ih]
      rfl

lemma cmdChat_clean (h : Clean evs) (hend : .recvBacklogEnd ∉ evs) :
    cmdChat evs = ((messages evs).map chatLine, .disconnected) := by
  induction evs with
  | nil => rfl
  | cons ev evs ih =>
    have ih := ih (fun ev hev => h ev (List.mem_cons_of_mem _ hev))
      fun hmem => hend (List.mem_cons_of_mem _ hmem)
    rcases h ev List.mem_cons_self with ⟨m, rfl⟩ | rfl
    · rw [cmdChat, ih]
      rfl
    · exact absurd List.mem_cons_self hend

lemma cmdChat_stops (h : Clean evs) (hend : .recvBacklogEnd ∈ evs) :
    (cmdChat evs).2 = .onEvent .recvBacklogEnd := by
  induction evs with
  | nil => cases hend
  | cons ev evs ih =>
    rcases h ev List.mem_cons_self with ⟨m, rfl⟩ | rfl
    · have hend : .recvBacklogEnd ∈ evs := by simpa using hend
      rw [cmdChat]
      exact ih (fun ev hev => h ev (List.mem_cons_of_mem _ hev)) hend
    · rfl

theorem clients_understand_until_backlog_end (json : SerdeJson) (hfollow : r.follow = true)
    (h : Writes lookup table r evs) :
    Understands (cmdRecv json r.follow) (recvLine json) evs ∧
      (Understands cmdChat chatLine evs ↔ .recvBacklogEnd ∉ evs) := by
  rw [hfollow]
  rcases writes_cases h with ⟨e, rfl⟩ | hc
  · refine ⟨⟨rfl, Or.inr ⟨e, rfl⟩⟩, fun _ => by simp, fun _ => ⟨rfl, Or.inr ⟨e, rfl⟩⟩⟩
  · refine ⟨?_, fun hu hend => ?_, fun hend => ?_⟩
    · rw [Understands, cmdRecv_clean json hc]
      exact ⟨rfl, Or.inl rfl⟩
    · rw [Understands, cmdChat_stops hc hend] at hu
      rcases hu.2 with hstop | ⟨e, hstop⟩
      · cases hstop
      · cases hstop
    · rw [Understands, cmdChat_clean hc hend]
      exact ⟨rfl, Or.inl rfl⟩

def plainJson : SerdeJson where
  Value := String
  fromSlice _ := none
  string := id
  toLine sender channel tsMs payload :=
    "from " ++ sender ++ " on " ++ channel ++ " at " ++ toString tsMs ++ ": " ++ payload

def hello : RecvMsg := ⟨Sample.node 2, some "bob", "general", [104, 105], 5⟩

def helloRow : MessageRow :=
  ⟨Sample.node 2, Sample.channelId "general", 1, .inbound, "general", Sample.node 2, [104, 105], 5,
    some 6⟩

def chatRequest : Request := ⟨some (.nodeId (Sample.node 2)), some "general", some 4, true⟩

def helloTable : MessageTable := ⟨[helloRow], List.nodup_singleton _⟩

lemma hello_writes :
    Writes (fun _ => none) helloTable chatRequest [.recvMsg hello, .recvBacklogEnd] := by
  have hrows : helloTable.InboxBacklog (some (Sample.node 2)) (some "general") (some 4) 10000
      [helloRow] := ⟨[helloRow], ⟨List.Perm.refl _, List.pairwise_singleton _ _⟩, rfl⟩
  exact @Writes.served (fun _ => none) helloTable chatRequest _ hrows [some "bob"] rfl []

theorem clients_understand_until_backlog_end_hello :
    Understands cmdChat chatLine [.recvMsg hello] ∧
      cmdChat [.recvMsg hello] = (["[bob] hi"], .disconnected) := by
  have hw : Writes (fun _ => none) helloTable chatRequest [.recvMsg hello] :=
    hello_writes.lost ⟨[.recvBacklogEnd], rfl⟩
  refine ⟨(clients_understand_until_backlog_end plainJson rfl hw).2.mpr (by simp), ?_⟩
  decide +kernel

theorem chat_stops_at_backlog_end : ∃ evs,
    Writes (fun _ => none) Table.empty chatRequest evs ∧ messages evs = [hello] ∧
    (cmdChat evs).1 = [] ∧ ¬ Understands cmdChat chatLine evs := by
  have hrows : MessageTable.InboxBacklog Table.empty (some (Sample.node 2)) (some "general") (some 4)
      10000 [] := ⟨[], ⟨List.Perm.refl _, List.Pairwise.nil⟩, rfl⟩
  refine ⟨[.recvBacklogEnd, .recvMsg hello], .served hrows [] rfl [.event (.recvMsg hello)], rfl, rfl,
    fun h => ?_⟩
  cases h.1

end WalkieTalkie.Subscription
