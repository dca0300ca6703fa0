import WalkieTalkie.Ipc.Listing
import WalkieTalkie.Lib.Registers
import WalkieTalkie.Lib.Runs

/-! The table of the connections beside the streams that are open. Both directions and all connections
of a peer share one list of labels without counts: an accepted or opened stream adds its label, a
stream that ends removes it whoever else has it, the streams that a failed delivery drops keep theirs,
and the whole entry goes when a connection ends, and only then. -/

namespace WalkieTalkie.Ipc.Presence

open Proto Store Lib Lib.Runs

structure PeerLink where
  nodeid : NodeId
  name : String
  sinceMs : UInt64
  viaRelay : Bool
  streamLabels : List String
deriving DecidableEq

abbrev Conns := Table PeerLink NodeId PeerLink.nodeid

def label (channel : String) : String := "msg:" ++ channel

def addLabel (label : String) (link : PeerLink) : PeerLink :=
  if label ∈ link.streamLabels then link
  else { link with streamLabels := link.streamLabels ++ [label] }

def dropLabel (label : String) (link : PeerLink) : PeerLink :=
  { link with streamLabels := link.streamLabels.filter (· ≠ label) }

lemma nodeid_addLabel (label : String) (link : PeerLink) : (addLabel label link).nodeid = link.nodeid := by
  rw [addLabel]
  split <;> rfl

lemma nodeid_dropLabel (label : String) (link : PeerLink) :
    (dropLabel label link).nodeid = link.nodeid := rfl

def register (conns : Conns) (peer : NodeId) (name : String) (now : UInt64) (channel : String) : Conns :=
  conns.upsert (fun link _ => addLabel (label channel) link) (fun link _ => nodeid_addLabel _ link)
    ⟨peer, name, now, false, [label channel]⟩

def forget (conns : Conns) (peer : NodeId) (channel : String) : Conns :=
  conns.update (fun link => link.nodeid = peer) (dropLabel (label channel))
    fun link => nodeid_dropLabel _ link

def remove (conns : Conns) (peer : NodeId) : Conns := conns.delete fun link => link.nodeid = peer

def listConns (conns : Conns) : List ConnInfo :=
  conns.rows.map fun link =>
    ⟨link.name, link.nodeid, link.sinceMs, link.streamLabels, 0, 0, none, link.viaRelay⟩

/-- A stream whose task has not come to its end; `ended` once its connection is gone. -/
structure Inbound where
  peer : NodeId
  conn : ℕ
  channel : String
  ended : Bool
deriving DecidableEq

structure State where
  conns : Conns
  live : List (NodeId × ℕ)
  inbound : List Inbound
  outbound : List (NodeId × String)

def initial : State := ⟨Table.empty, [], [], []⟩

inductive Label
  | connect (peer : NodeId) (conn : ℕ)
  | accept (peer : NodeId) (conn : ℕ) (channel : String) (name : Option String) (now : UInt64)
  | finish (i : ℕ)
  | malformed (peer : NodeId) (conn : ℕ)
  | hangUp (peer : NodeId) (conn : ℕ)
  | openOutbound (peer : NodeId) (channel name : String) (now : UInt64)
  | lost (peer : NodeId) (channel : String)
  | clear (peer : NodeId)

def hexPrefix (n : NodeId) : String := hexEncode (n.bytes.toList.take 6)

def endConn (peer : NodeId) (conn : ℕ) (s : Inbound) : Inbound :=
  if s.peer = peer ∧ s.conn = conn then { s with ended := true } else s

def step (st : State) : Label → Option State
  | .connect peer conn =>
    if (peer, conn) ∈ st.live ∨ ∃ s ∈ st.inbound, s.peer = peer ∧ s.conn = conn then none
    else some { st with live := (peer, conn) :: st.live }
  | .accept peer conn channel name now =>
    if (peer, conn) ∈ st.live then
      some { st with
        conns := register st.conns peer (name.getD (hexPrefix peer)) now channel
        inbound := st.inbound ++ [⟨peer, conn, channel, false⟩] }
    else none
  | .finish i =>
    match st.inbound[i]? with
    | none => none
    | some s =>
      some { st with conns := forget st.conns s.peer s.channel, inbound := st.inbound.eraseIdx i }
  | .malformed peer conn =>
    if (peer, conn) ∈ st.live then some { st with live := st.live.filter (· ≠ (peer, conn)) } else none
  | .hangUp peer conn =>
    if (peer, conn) ∈ st.live then
      some { st with
        conns := remove st.conns peer
        live := st.live.filter (· ≠ (peer, conn))
        inbound := st.inbound.map (endConn peer conn) }
    else none
  | .openOutbound peer channel name now =>
    if (peer, channel) ∈ st.outbound then none
    else
      some { st with
        conns := register st.conns peer name now channel
        outbound := (peer, channel) :: st.outbound }
  | .lost peer channel =>
    if (peer, channel) ∈ st.outbound then
      some { st with
        conns := forget st.conns peer channel
        outbound := st.outbound.filter (· ≠ (peer, channel)) }
    else none
  | .clear peer => some { st with outbound := st.outbound.filter (·.1 ≠ peer) }

def Opened (inbound : List Inbound) (outbound : List (NodeId × String)) (peer : NodeId)
    (channel : String) : Prop :=
  (∃ s ∈ inbound, s.ended = false ∧ s.peer = peer ∧ s.channel = channel) ∨ (peer, channel) ∈ outbound

/-- The table says which streams are open, and the list of the peers who is connected. -/
structure TellsTruth (st : State) : Prop where
  labels : ∀ peer channel,
    (∃ link ∈ st.conns.rows, link.nodeid = peer ∧ label channel ∈ link.streamLabels) ↔
      Opened st.inbound st.outbound peer channel
  connected : ∀ row : PeerRow,
    (∃ n, (peerInfo (listConns st.conns) row).state = .connected n) ↔
      ∃ channel, Opened st.inbound st.outbound row.nodeid channel

/-- The steps that keep the table true: the last stream of a peer only ends with its connection, a
label is removed only with the last stream of its channel, streams are dropped only beside others of
their channels, and a connection ends only as the last one of its peer. -/
def Harmless (st : State) : Label → Prop
  | .finish i => ∀ s, st.inbound[i]? = some s →
      ¬ Opened (st.inbound.eraseIdx i) st.outbound s.peer s.channel ∧
      (s.ended = false → ∃ channel, Opened (st.inbound.eraseIdx i) st.outbound s.peer channel)
  | .hangUp peer conn => ∀ channel,
      ¬ Opened (st.inbound.map (endConn peer conn)) st.outbound peer channel
  | .lost peer channel =>
      ¬ Opened st.inbound (st.outbound.filter (· ≠ (peer, channel))) peer channel ∧
      ∃ other, Opened st.inbound (st.outbound.filter (· ≠ (peer, channel))) peer other
  | .clear peer => ∀ channel, (peer, channel) ∈ st.outbound → Opened st.inbound [] peer channel
  | .connect .. | .accept .. | .malformed .. | .openOutbound .. => True

variable {st st' : State} {conns : Conns} {peer : NodeId} {channel : String}

def registerOf (conns : Conns) : Register NodeId String where
  listed peer channel := ∃ link ∈ conns.rows, link.nodeid = peer ∧ label channel ∈ link.streamLabels
  known peer := ∃ link ∈ conns.rows, link.nodeid = peer

lemma label_inj {c c' : String} : label c = label c' ↔ c = c' := String.append_right_inj "msg:"

lemma mem_addLabel {c : String} {link : PeerLink} :
    label c ∈ (addLabel (label channel) link).streamLabels ↔ label c ∈ link.streamLabels ∨ c = channel := by
  rw [addLabel]
  split
  · next hlisted =>
    refine ⟨Or.inl, fun h => h.elim id ?_⟩
    rintro rfl
    exact hlisted
  · rw [List.mem_append, List.mem_singleton, label_inj]

lemma mem_dropLabel {c : String} {link : PeerLink} :
    label c ∈ (dropLabel (label channel) link).streamLabels ↔ label c ∈ link.streamLabels ∧ c ≠ channel := by
  rw [dropLabel, List.mem_filter, decide_eq_true_eq, ne_eq, label_inj]

lemma register_keeps {link : PeerLink} (name : String) (now : UInt64) (h : link ∈ conns.rows) :
    ∃ link' ∈ (register conns peer name now channel).rows, link'.nodeid = link.nodeid ∧
      ∀ c, label c ∈ link.streamLabels → label c ∈ link'.streamLabels := by
  by_cases hkey : link.nodeid = peer
  · exact ⟨_, Table.mem_upsert.mpr (Or.inr (Or.inl ⟨link, h, hkey, rfl⟩)), nodeid_addLabel _ _,
      fun c hc => mem_addLabel.mpr (Or.inl hc)⟩
  · exact ⟨link, Table.mem_upsert.mpr (Or.inl ⟨h, hkey⟩), rfl, fun _ hc => hc⟩

lemma register_adds (name : String) (now : UInt64) :
    ∃ link ∈ (register conns peer name now channel).rows, link.nodeid = peer ∧
      label channel ∈ link.streamLabels := by
  by_cases hold : ∃ o ∈ conns.rows, o.nodeid = peer
  · obtain ⟨o, ho, hkey⟩ := hold
    exact ⟨_, Table.mem_upsert.mpr (Or.inr (Or.inl ⟨o, ho, hkey, rfl⟩)),
      (nodeid_addLabel _ _).trans hkey, mem_addLabel.mpr (Or.inr rfl)⟩
  · exact ⟨_, Table.mem_upsert.mpr (Or.inr (Or.inr ⟨rfl, fun o ho hkey => hold ⟨o, ho, hkey⟩⟩)), rfl,
      List.mem_singleton_self _⟩

lemma register_from {link : PeerLink} {name : String} {now : UInt64}
    (h : link ∈ (register conns peer name now channel).rows) :
    (link.nodeid = peer ∨ ∃ o ∈ conns.rows, o.nodeid = link.nodeid) ∧
      ∀ c, label c ∈ link.streamLabels →
        (∃ o ∈ conns.rows, o.nodeid = link.nodeid ∧ label c ∈ o.streamLabels) ∨
          link.nodeid = peer ∧ c = channel := by
  rcases Table.mem_upsert.mp h with ⟨hold, _⟩ | ⟨o, ho, hkey, rfl⟩ | ⟨rfl, _⟩
  · exact ⟨Or.inr ⟨link, hold, rfl⟩, fun c hc => Or.inl ⟨link, hold, rfl, hc⟩⟩
  · rw [nodeid_addLabel]
    refine ⟨Or.inl hkey, fun c hc => ?_⟩
    exact (mem_addLabel.mp hc).imp (fun hc => ⟨o, ho, rfl, hc⟩) fun hc => ⟨hkey, hc⟩
  · exact ⟨Or.inl rfl, fun c hc => Or.inr ⟨rfl, label_inj.mp (List.mem_singleton.mp hc)⟩⟩

lemma registerOf_register (name : String) (now : UInt64) :
    registerOf (register conns peer name now channel) = (registerOf conns).enter peer channel := by
  refine Register.ext (funext fun p => funext fun c => propext ?_) (funext fun p => propext ?_)
  · constructor
    · rintro ⟨link, hlink, rfl, hlabel⟩
      exact (register_from hlink).2 c hlabel
    · rintro (⟨link, hlink, rfl, hlabel⟩ | ⟨rfl, rfl⟩)
      · obtain ⟨link', hlink', hkey, hkept⟩ := register_keeps name now hlink
        exact ⟨link', hlink', hkey, hkept c hlabel⟩
      · exact register_adds name now
  · constructor
    · rintro ⟨link, hlink, rfl⟩
      exact (register_from hlink).1.symm
    · rintro (⟨link, hlink, rfl⟩ | rfl)
      · obtain ⟨link', hlink', hkey, _⟩ := register_keeps name now hlink
        exact ⟨link', hlink', hkey⟩
      · have hadded : ∃ link ∈ (register conns p name now channel).rows, link.nodeid = p ∧ _ :=
          register_adds name now
        obtain ⟨link, hlink, hkey, _⟩ := hadded
        exact ⟨link, hlink, hkey⟩

lemma registerOf_forget : registerOf (forget conns peer channel) = (registerOf conns).forget peer channel := by
  have hmem : ∀ link, link ∈ (forget conns peer channel).rows ↔ ∃ o ∈ conns.rows,
      link = if o.nodeid = peer then dropLabel (label channel) o else o := by
    intro link
    rw [forget, Table.mem_update]
    simp only [decide_eq_true_eq]
  have hkept : ∀ o : PeerLink,
      (if o.nodeid = peer then dropLabel (label channel) o else o).nodeid = o.nodeid := by
    intro o
    split <;> rfl
  refine Register.ext (funext fun p => funext fun c => propext ?_) (funext fun p => propext ?_)
  · constructor
    · rintro ⟨link, hlink, rfl, hlabel⟩
      obtain ⟨o, ho, rfl⟩ := (hmem link).mp hlink
      rw [hkept]
      split at hlabel
      · obtain ⟨hlabel, hne⟩ := mem_dropLabel.mp hlabel
        exact ⟨⟨o, ho, rfl, hlabel⟩, fun h => hne h.2⟩
      · next hkey => exact ⟨⟨o, ho, rfl, hlabel⟩, fun h => hkey h.1⟩
    · rintro ⟨⟨o, ho, rfl, hlabel⟩, hne⟩
      refine ⟨_, (hmem _).mpr ⟨o, ho, rfl⟩, hkept o, ?_⟩
      split
      · next hkey => exact mem_dropLabel.mpr ⟨hlabel, fun hc => hne ⟨hkey, hc⟩⟩
      · exact hlabel
  · constructor
    · rintro ⟨link, hlink, rfl⟩
      obtain ⟨o, ho, rfl⟩ := (hmem link).mp hlink
      exact ⟨o, ho, (hkept o).symm⟩
    · rintro ⟨o, ho, rfl⟩
      exact ⟨_, (hmem _).mpr ⟨o, ho, rfl⟩, hkept o⟩

lemma registerOf_remove : registerOf (remove conns peer) = (registerOf conns).leave peer := by
  have hmem : ∀ link, link ∈ (remove conns peer).rows ↔ link ∈ conns.rows ∧ link.nodeid ≠ peer := by
    intro link
    rw [remove, Table.mem_delete, decide_eq_false_iff_not]
  refine Register.ext (funext fun p => funext fun c => propext ?_) (funext fun p => propext ?_)
  · constructor
    · rintro ⟨link, hlink, rfl, hlabel⟩
      obtain ⟨hlink, hne⟩ := (hmem link).mp hlink
      exact ⟨⟨link, hlink, rfl, hlabel⟩, hne⟩
    · rintro ⟨⟨link, hlink, rfl, hlabel⟩, hne⟩
      exact ⟨link, (hmem link).mpr ⟨hlink, hne⟩, rfl, hlabel⟩
  · constructor
    · rintro ⟨link, hlink, rfl⟩
      obtain ⟨hlink, hne⟩ := (hmem link).mp hlink
      exact ⟨⟨link, hlink, rfl⟩, hne⟩
    · rintro ⟨⟨link, hlink, rfl⟩, hne⟩
      exact ⟨link, (hmem link).mpr ⟨hlink, hne⟩, rfl⟩

lemma connected_iff (row : PeerRow) :
    (∃ n, (peerInfo (listConns conns) row).state = .connected n) ↔ (registerOf conns).known row.nodeid := by
  rw [peerInfo_connected, listConns]
  constructor
  · rintro ⟨c, hc, hkey⟩
    obtain ⟨link, hlink, rfl⟩ := List.mem_map.mp hc
    exact ⟨link, hlink, hkey⟩
  · rintro ⟨link, hlink, hkey⟩
    exact ⟨_, List.mem_map_of_mem hlink, hkey⟩

lemma tellsTruth_iff : TellsTruth st ↔
    (registerOf st.conns).Truthful (Opened st.inbound st.outbound) := by
  constructor
  · intro h
    refine ⟨h.labels, fun p => ?_⟩
    exact (connected_iff ⟨p, "", 0, none, none⟩).symm.trans (h.connected ⟨p, "", 0, none, none⟩)
  · intro h
    exact ⟨h.listed, fun row => (connected_iff row).trans (h.known row.nodeid)⟩

variable {inbound : List Inbound} {outbound : List (NodeId × String)}

lemma opened_accept (conn : ℕ) (p : NodeId) (c : String) :
    Opened (inbound ++ [⟨peer, conn, channel, false⟩]) outbound p c ↔
      Opened inbound outbound p c ∨ (p = peer ∧ c = channel) := by
  simp only [Opened, List.mem_append, List.mem_singleton, or_and_right, exists_or, exists_eq_left,
    true_and]
  rw [or_right_comm, @eq_comm _ peer, @eq_comm _ channel]

lemma opened_openOutbound (p : NodeId) (c : String) :
    Opened inbound ((peer, channel) :: outbound) p c ↔
      Opened inbound outbound p c ∨ (p = peer ∧ c = channel) := by
  rw [Opened, Opened, List.mem_cons, Prod.mk.injEq, or_comm (a := p = peer ∧ c = channel), or_assoc]

lemma opened_lost (h : (peer, channel) ∈ outbound) (p : NodeId) (c : String) :
    Opened inbound outbound p c ↔
      Opened inbound (outbound.filter (· ≠ (peer, channel))) p c ∨ (p = peer ∧ c = channel) := by
  rw [Opened, Opened, List.mem_filter, decide_eq_true_eq, or_assoc]
  refine or_congr_right ⟨fun hmem => ?_, ?_⟩
  · by_cases heq : (p, c) = (peer, channel)
    · exact Or.inr (Prod.mk.inj heq)
    · exact Or.inl ⟨hmem, heq⟩
  · rintro (hmem | ⟨rfl, rfl⟩)
    · exact hmem.1
    · exact h

lemma mem_iff_eraseIdx {s : Inbound} {i : ℕ} (h : inbound[i]? = some s) (x : Inbound) :
    x ∈ inbound ↔ x ∈ inbound.eraseIdx i ∨ x = s := by
  obtain ⟨hlt, rfl⟩ := List.getElem?_eq_some_iff.mp h
  have hsplit : inbound = inbound.take i ++ inbound[i] :: inbound.drop (i + 1) := by
    rw [List.getElem_cons_drop, List.take_append_drop]
  rw [List.eraseIdx_eq_take_drop_succ]
  conv_lhs => rw [hsplit]
  rw [List.mem_append, List.mem_cons, List.mem_append, or_assoc, or_comm (a := x = inbound[i])]

lemma opened_finish {s : Inbound} {i : ℕ} (h : inbound[i]? = some s) (p : NodeId) (c : String) :
    Opened inbound outbound p c ↔ Opened (inbound.eraseIdx i) outbound p c ∨
      (s.ended = false ∧ p = s.peer ∧ c = s.channel) := by
  simp only [Opened, mem_iff_eraseIdx h, or_and_right, exists_or, exists_eq_left]
  rw [or_right_comm, @eq_comm _ s.peer, @eq_comm _ s.channel]

lemma opened_hangUp (conn : ℕ) {p : NodeId} (h : p ≠ peer) (c : String) :
    Opened inbound outbound p c ↔ Opened (inbound.map (endConn peer conn)) outbound p c := by
  have hother : ∀ s : Inbound, s.peer = p → endConn peer conn s = s :=
    fun s hs => if_neg fun hconn => h (hs.symm.trans hconn.1)
  have hsame : ∀ s : Inbound, (endConn peer conn s).peer = s.peer := by
    intro s
    rw [endConn]
    split <;> rfl
  refine or_congr_left ⟨?_, ?_⟩
  · rintro ⟨s, hs, hopen, hp, hc⟩
    refine ⟨s, List.mem_map.mpr ⟨s, hs, hother s hp⟩, hopen, hp, hc⟩
  · rintro ⟨s, hs, hopen, hp, hc⟩
    obtain ⟨o, ho, rfl⟩ := List.mem_map.mp hs
    rw [hsame] at hp
    rw [hother o hp] at hopen hc
    exact ⟨o, ho, hopen, hp, hc⟩

lemma opened_clear_iff : (∀ p c, Opened inbound outbound p c ↔
      Opened inbound (outbound.filter (·.1 ≠ peer)) p c) ↔
    ∀ c, (peer, c) ∈ outbound → Opened inbound [] peer c := by
  constructor
  · intro h c hmem
    refine ((h peer c).mp (Or.inr hmem)).imp_right fun hfilter => ?_
    have hne := (List.mem_filter.mp hfilter).2
    simp at hne
  · intro h p c
    constructor
    · rintro (hin | hmem)
      · exact Or.inl hin
      · by_cases hp : p = peer
        · subst hp
          exact Or.inl ((h c hmem).resolve_right List.not_mem_nil)
        · exact Or.inr (List.mem_filter.mpr ⟨hmem, decide_eq_true hp⟩)
    · exact fun hopen => hopen.imp_right fun hmem => (List.mem_filter.mp hmem).1

inductive Moves (st : State) : Label → State → Prop
  | connect {p k} : Moves st (.connect p k) { st with live := (p, k) :: st.live }
  | accept {p k c name now} :
      Moves st (.accept p k c name now) { st with
        conns := register st.conns p (name.getD (hexPrefix p)) now c
        inbound := st.inbound ++ [⟨p, k, c, false⟩] }
  | finish {i s} (h : st.inbound[i]? = some s) : Moves st (.finish i)
      { st with conns := forget st.conns s.peer s.channel, inbound := st.inbound.eraseIdx i }
  | malformed {p k} :
      Moves st (.malformed p k) { st with live := st.live.filter (· ≠ (p, k)) }
  | hangUp {p k} : Moves st (.hangUp p k) { st with
        conns := remove st.conns p
        live := st.live.filter (· ≠ (p, k))
        inbound := st.inbound.map (endConn p k) }
  | openOutbound {p c name now} : Moves st (.openOutbound p c name now) { st with
        conns := register st.conns p name now c
        outbound := (p, c) :: st.outbound }
  | lost {p c} (h : (p, c) ∈ st.outbound) : Moves st (.lost p c) { st with
        conns := forget st.conns p c
        outbound := st.outbound.filter (· ≠ (p, c)) }
  | clear {p} :
      Moves st (.clear p) { st with outbound := st.outbound.filter (·.1 ≠ p) }

lemma step_moves {l : Label} (h : step st l = some st') : Moves st l st' := by
  cases l with
  | connect peer conn =>
    simp only [step] at h
    split at h
    · cases h
    · obtain rfl := Option.some.inj h
      exact .connect
  | accept peer conn channel name now =>
    simp only [step] at h
    split at h
    · obtain rfl := Option.some.inj h
      exact .accept
    · cases h
  | finish i =>
    simp only [step] at h
    split at h
    · cases h
    · next hs =>
      obtain rfl := Option.some.inj h
      exact .finish hs
  | malformed peer conn =>
    simp only [step] at h
    split at h
    · obtain rfl := Option.some.inj h
      exact .malformed
    · cases h
  | hangUp peer conn =>
    simp only [step] at h
    split at h
    · obtain rfl := Option.some.inj h
      exact .hangUp
    · cases h
  | openOutbound peer channel name now =>
    simp only [step] at h
    split at h
    · cases h
    · obtain rfl := Option.some.inj h
      exact .openOutbound
  | lost peer channel =>
    simp only [step] at h
    split at h
    · next hmem =>
      obtain rfl := Option.some.inj h
      exact .lost hmem
    · cases h
  | clear peer =>
    obtain rfl := Option.some.inj h
    exact .clear

lemma finish_truthful_iff {i : ℕ} {s : Inbound} (hs : st.inbound[i]? = some s)
    (h : (registerOf st.conns).Truthful (Opened st.inbound st.outbound)) :
    ((registerOf st.conns).forget s.peer s.channel).Truthful
        (Opened (st.inbound.eraseIdx i) st.outbound) ↔
      ¬ Opened (st.inbound.eraseIdx i) st.outbound s.peer s.channel ∧
        (s.ended = false → ∃ channel, Opened (st.inbound.eraseIdx i) st.outbound s.peer channel) := by
  cases hended : s.ended with
  | false =>
    have hopened : ∀ p c, Opened st.inbound st.outbound p c ↔
        Opened (st.inbound.eraseIdx i) st.outbound p c ∨ (p = s.peer ∧ c = s.channel) := by
      intro p c
      rw [opened_finish hs, hended]
      simp
    rw [h.forget_iff hopened]
    exact and_congr_right fun _ => ⟨fun hother _ => hother, fun hother => hother rfl⟩
  | true =>
    have hopened : Opened st.inbound st.outbound = Opened (st.inbound.eraseIdx i) st.outbound := by
      funext p c
      rw [opened_finish hs, hended]
      simp
    rw [hopened] at h
    rw [h.forget_closed_iff]
    exact (and_iff_left fun hfalse => (by cases hfalse)).symm

lemma step_truthful_iff {l : Label} (h : TellsTruth st) (hstep : step st l = some st') :
    TellsTruth st' ↔ Harmless st l := by
  rw [tellsTruth_iff] at h ⊢
  cases step_moves hstep with
  | connect | malformed => exact iff_true_intro h
  | accept =>
    rw [registerOf_register]
    exact iff_true_intro (h.enter (opened_accept _))
  | finish hs =>
    rw [registerOf_forget]
    refine (finish_truthful_iff hs h).trans ⟨fun hlast s hs' => ?_, fun hlast => hlast _ hs⟩
    obtain rfl := Option.some.inj (hs.symm.trans hs')
    exact hlast
  | hangUp =>
    rw [registerOf_remove]
    exact h.leave_iff fun p hp c => opened_hangUp _ hp c
  | openOutbound =>
    rw [registerOf_register]
    exact iff_true_intro (h.enter opened_openOutbound)
  | lost hmem =>
    rw [registerOf_forget]
    exact h.forget_iff (opened_lost hmem)
  | clear => exact h.keep_iff.trans opened_clear_iff

lemma tellsTruth_initial : TellsTruth initial := by
  refine ⟨fun p c => ⟨?_, ?_⟩, fun row => ⟨?_, ?_⟩⟩
  · rintro ⟨link, hlink, _⟩
    cases hlink
  · rintro (⟨s, hs, _⟩ | hmem)
    · cases hs
    · cases hmem
  · intro h
    obtain ⟨link, hlink, _⟩ := (connected_iff row).mp h
    cases hlink
  · rintro ⟨c, ⟨s, hs, _⟩ | hmem⟩
    · cases hs
    · cases hmem

theorem connections_tell_the_truth (st : State) :
    (∀ l st', TellsTruth st → step st l = some st' → (TellsTruth st' ↔ Harmless st l)) ∧
    ∀ ls, Run (Guarded Harmless (Fires step)) initial ls st → TellsTruth st := by
  refine ⟨fun _ _ h hstep => step_truthful_iff h hstep, fun ls hrun => ?_⟩
  exact hrun.invariant (fun _ _ _ hi hs => (step_truthful_iff hi hs.2).mpr hs.1) tellsTruth_initial

def opens : Label → Bool
  | .connect .. => true
  | .accept .. => true
  | _ => false

lemma harmless_of_opens {l : Label} (h : opens l = true) : Harmless st l := by
  cases l with
  | connect | accept => trivial
  | _ => cases h

def twoChannels : List Label :=
  [.connect (Sample.node 2) 0, .accept (Sample.node 2) 0 "chat" none 5,
    .accept (Sample.node 2) 0 "news" none 6]

/-- A stream ends beside one on another channel, and takes its label with it. -/
theorem connections_tell_the_truth_two_channels : ∃ st st',
    Run (Guarded Harmless (Fires step)) initial twoChannels st ∧ step st (.finish 0) = some st' ∧
    TellsTruth st' ∧ st'.inbound = [⟨Sample.node 2, 0, "news", false⟩] := by
  have heval : (execute step initial twoChannels).bind (fun st => (step st (.finish 0)).map fun st' =>
      (st.inbound, st.outbound, st'.inbound)) =
      some ([⟨Sample.node 2, 0, "chat", false⟩, ⟨Sample.node 2, 0, "news", false⟩], [],
        [⟨Sample.node 2, 0, "news", false⟩]) := by
    decide +kernel
  obtain ⟨st, hst, hmap⟩ := Option.bind_eq_some_iff.mp heval
  obtain ⟨st', hstep, hfacts⟩ := Option.map_eq_some_iff.mp hmap
  obtain ⟨hinbound, hfacts⟩ := Prod.mk.inj hfacts
  obtain ⟨houtbound, hinbound'⟩ := Prod.mk.inj hfacts
  have hrun : Run (Guarded Harmless (Fires step)) initial twoChannels st :=
    ((execute_run hst).guard (p := fun l => opens l = true) (by decide)).mono
      fun _ _ _ h => ⟨harmless_of_opens h.1, h.2⟩
  have hharmless : Harmless st (.finish 0) := by
    intro s hs
    rw [hinbound] at hs
    obtain rfl := Option.some.inj hs
    rw [hinbound, houtbound]
    constructor
    · rintro (⟨s, hs, _, _, hchannel⟩ | hmem)
      · rw [List.mem_singleton.mp hs] at hchannel
        exact absurd hchannel (by decide)
      · cases hmem
    · exact fun _ => ⟨"news", Or.inl ⟨_, List.mem_singleton_self _, rfl, rfl, rfl⟩⟩
  have htruth := (connections_tell_the_truth st).2 _ hrun
  exact ⟨st, st', hrun, hstep,
    ((connections_tell_the_truth st).1 _ _ htruth hstep).mpr hharmless, hinbound'⟩

def twoStreams : List Label :=
  [.connect (Sample.node 2) 0, .accept (Sample.node 2) 0 "chat" none 5,
    .accept (Sample.node 2) 0 "chat" none 6, .finish 0]

theorem shared_label_goes_with_the_first_stream : ∃ st, execute step initial twoStreams = some st ∧
    Opened st.inbound st.outbound (Sample.node 2) "chat" ∧ ¬ TellsTruth st := by
  have heval : (execute step initial twoStreams).map (fun st =>
      (st.conns.rows.map PeerLink.streamLabels, st.inbound)) =
      some ([[]], [⟨Sample.node 2, 0, "chat", false⟩]) := by
    decide +kernel
  obtain ⟨st, hst, hmap⟩ := Option.map_eq_some_iff.mp heval
  obtain ⟨hlabels, hinbound⟩ := Prod.mk.inj hmap
  have hopened : Opened st.inbound st.outbound (Sample.node 2) "chat" := by
    rw [hinbound]
    exact Or.inl ⟨_, List.mem_singleton_self _, rfl, rfl, rfl⟩
  refine ⟨st, hst, hopened, fun h => ?_⟩
  obtain ⟨link, hlink, _, hlabel⟩ := (h.labels _ _).mpr hopened
  have hnone : link.streamLabels ∈ st.conns.rows.map PeerLink.streamLabels := List.mem_map_of_mem hlink
  rw [hlabels] at hnone
  rw [List.mem_singleton.mp hnone] at hlabel
  cases hlabel

end WalkieTalkie.Ipc.Presence
