import WalkieTalkie.NodeIds
import WalkieTalkie.Daemon.Trust
import WalkieTalkie.Inbox.Filter

/-! Whom the commands that take a peer act on. A text that is the hex form of a node id is that id, and
any other text is a name; names are unique in the peers table and otherwise free. -/

namespace WalkieTalkie.Cli

open Proto Store
open Daemon.Trust (selToBytes)
open Subscription (wantPeer)
open Inbox (lookup)

def peerSelector (s : String) : PeerSelector :=
  match NodeId.fromStr s with
  | .ok n => .nodeId n
  | .error _ => .name s

inductive PeerCommand
  | send
  | peerRm
  | tokenGrant
  | recvFrom
  | chat
deriving DecidableEq

/-- The peer that a message is queued for and a token is made for. -/
def recipient (t : PeerTable) (peer : PeerSelector) : List NodeId :=
  (t.peerGet (selToBytes peer)).toList.map PeerRow.nodeid

/-- The peers whose rows are gone. -/
def removed (t : PeerTable) (peer : PeerSelector) : List NodeId :=
  (t.table.rows.filter fun r => r ∉ (t.peerRemove (selToBytes peer)).1.table.rows).map PeerRow.nodeid

/-- The sender whose messages are shown. -/
def shownSender (t : PeerTable) (peer : PeerSelector) : List NodeId :=
  (wantPeer (lookup t none) (some peer)).toList

def actsOn (t : PeerTable) (peer : String) : PeerCommand → List NodeId
  | .send | .tokenGrant => recipient t (peerSelector peer)
  | .peerRm => removed t (peerSelector peer)
  | .recvFrom => shownSender t (peerSelector peer)
  | .chat => shownSender t (peerSelector peer) ++ recipient t (peerSelector peer)

/-- Every command acts on the node, and on no other. -/
def Addressed (t : PeerTable) (peer : String) (n : NodeId) : Prop :=
  ∀ cmd, actsOn t peer cmd ≠ [] ∧ ∀ n' ∈ actsOn t peer cmd, n' = n

variable {t : PeerTable} {row : PeerRow} {sel : PeerSelector} {n : NodeId}

def Selects (t : PeerTable) (sel : PeerSelector) (row : PeerRow) : Prop :=
  ∀ r ∈ t.table.rows, (selToBytes sel).selects r = true ↔ r = row

lemma selects_name (hrow : row ∈ t.table.rows) : Selects t (.name row.name) row := by
  intro r hr
  simp only [selToBytes, PeerSelectorBytes.selects, decide_eq_true_eq]
  constructor
  · exact t.eq_of_name hr hrow
  · rintro rfl
    rfl

lemma selects_nodeid (hrow : row ∈ t.table.rows) : Selects t (.nodeId row.nodeid) row := by
  intro r hr
  simp only [selToBytes, PeerSelectorBytes.selects, decide_eq_true_eq]
  constructor
  · exact t.table.eq_of_key hr hrow
  · rintro rfl
    rfl

lemma Selects.peerGet (h : Selects t sel row) (hrow : row ∈ t.table.rows) :
    t.peerGet (selToBytes sel) = some row := by
  have hsome : (t.peerGet (selToBytes sel)).isSome :=
    List.find?_isSome.mpr ⟨row, hrow, (h row hrow).mpr rfl⟩
  obtain ⟨r, hr⟩ := Option.isSome_iff_exists.mp hsome
  rw [hr, (h r (List.mem_of_find?_eq_some hr)).mp (List.find?_some hr)]

lemma Selects.recipient (h : Selects t sel row) (hrow : row ∈ t.table.rows) :
    recipient t sel = [row.nodeid] := by
  rw [Cli.recipient, h.peerGet hrow]
  rfl

lemma Selects.removed (h : Selects t sel row) (hrow : row ∈ t.table.rows) :
    removed t sel ≠ [] ∧ ∀ n ∈ removed t sel, n = row.nodeid := by
  have hmem : ∀ n, n ∈ Cli.removed t sel ↔ n = row.nodeid := by
    intro n
    simp only [Cli.removed, List.mem_map, List.mem_filter, decide_eq_true_eq, PeerTable.peerRemove,
      Lib.Table.mem_delete, not_and, Bool.not_eq_false]
    constructor
    · rintro ⟨r, ⟨hr, hgone⟩, rfl⟩
      rw [(h r hr).mp (hgone hr)]
    · rintro rfl
      exact ⟨row, ⟨hrow, fun _ => (h row hrow).mpr rfl⟩, rfl⟩
  exact ⟨List.ne_nil_of_mem ((hmem row.nodeid).mpr rfl), fun n hn => (hmem n).mp hn⟩

lemma shownSender_name (hrow : row ∈ t.table.rows) : shownSender t (.name row.name) = [row.nodeid] := by
  have hget : t.peerGet (.name row.name) = some row := (selects_name hrow).peerGet hrow
  simp [shownSender, wantPeer, lookup, Inbox.peerGet, hget, Except.toOption]

lemma Selects.addressed {peer : String} (h : Selects t (peerSelector peer) row)
    (hrow : row ∈ t.table.rows) (hshown : shownSender t (peerSelector peer) = [row.nodeid]) :
    Addressed t peer row.nodeid := by
  have hrecipient := h.recipient hrow
  intro cmd
  cases cmd with
  | send | tokenGrant => simp [actsOn, hrecipient]
  | peerRm => exact h.removed hrow
  | recvFrom => simp [actsOn, hshown]
  | chat => simp [actsOn, hshown, hrecipient]

theorem addressed_by_name_iff (t : PeerTable) (row : PeerRow) (hrow : row ∈ t.table.rows) :
    Addressed t row.name row.nodeid ↔ ∀ n, NodeId.fromStr row.name = .ok n → n = row.nodeid := by
  rcases hparse : NodeId.fromStr row.name with e | n
  · have hsel : peerSelector row.name = .name row.name := by rw [peerSelector, hparse]
    refine ⟨fun _ _ h => (by cases h), fun _ => Selects.addressed ?_ hrow ?_⟩
    · rw [hsel]
      exact selects_name hrow
    · rw [hsel]
      exact shownSender_name hrow
  · have hsel : peerSelector row.name = .nodeId n := by rw [peerSelector, hparse]
    constructor
    · rintro h n' hn'
      obtain rfl := Except.ok.inj hn'
      refine (h .recvFrom).2 n ?_
      rw [actsOn, hsel]
      exact List.mem_singleton_self n
    · intro h
      obtain rfl := h n rfl
      refine Selects.addressed ?_ hrow ?_
      · rw [hsel]
        exact selects_nodeid hrow
      · rw [hsel]
        rfl

def node (b : UInt8) : NodeId := ⟨Vector.replicate 32 b⟩

def alice : PeerRow := ⟨node 1, "alice", 5, none, none⟩

/-- A peer that was given the id of another one as its name. -/
def impostor : PeerRow := ⟨node 2, (node 1).display, 6, none, none⟩

def known : Except String PeerTable := do
  let t ← PeerTable.empty.peerAdd (node 1) "alice" none 5
  t.peerAdd (node 2) (node 1).display none 6

lemma known_rows : ∃ t, known = .ok t ∧ t.table.rows = [alice, impostor] := by
  have heval : known.toOption.map (fun t => t.table.rows) = some [alice, impostor] := by
    decide +kernel
  obtain ⟨t, ht, hrows⟩ := Option.map_eq_some_iff.mp heval
  refine ⟨t, ?_, hrows⟩
  rcases hknown : known with e | t'
  · rw [hknown] at ht
    cases ht
  · rw [hknown] at ht
    rw [Option.some.inj ht]

theorem addressed_by_name_iff_alice : ∃ t, known = .ok t ∧ Addressed t "alice" (node 1) := by
  obtain ⟨t, ht, hrows⟩ := known_rows
  have hrow : alice ∈ t.table.rows := by
    rw [hrows]
    exact List.mem_cons_self ..
  have hparse : NodeId.fromStr "alice" = .error .notHex := by decide +kernel
  exact ⟨t, ht, (addressed_by_name_iff t alice hrow).mpr fun n hn => by
    rw [show alice.name = "alice" from rfl, hparse] at hn
    cases hn⟩

theorem id_as_a_name_addresses_the_other : ∃ t, known = .ok t ∧ impostor ∈ t.table.rows ∧
    actsOn t impostor.name .send = [node 1] ∧ ¬ Addressed t impostor.name impostor.nodeid := by
  obtain ⟨t, ht, hrows⟩ := known_rows
  have hother : node 1 ≠ node 2 := by decide
  have hrow : alice ∈ t.table.rows := by
    rw [hrows]
    exact List.mem_cons_self ..
  have hsel : peerSelector impostor.name = .nodeId (node 1) := by
    have hparse : NodeId.fromStr impostor.name = .ok (node 1) := NodeId.fromStr_display (node 1)
    rw [peerSelector, hparse]
  have hsend : actsOn t impostor.name .send = [node 1] := by
    rw [actsOn, hsel]
    exact Selects.recipient (selects_nodeid hrow) hrow
  refine ⟨t, ht, ?_, hsend, fun h => hother ((h .send).2 (node 1) ?_)⟩
  · rw [hrows]
    exact List.mem_cons_of_mem _ (List.mem_singleton_self _)
  · rw [hsend]
    exact List.mem_singleton_self _

end WalkieTalkie.Cli
