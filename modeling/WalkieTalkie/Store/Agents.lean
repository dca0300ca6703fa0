import WalkieTalkie.Lib.Tables
import WalkieTalkie.Proto

/-! The tables of groups, agents and sessions. Rows are never deleted, and of an agent or a session
only the status changes. Agents have two unique keys: the name within the group, and the hash of the
bearer token. -/

namespace WalkieTalkie.Store

open Proto Lib

inductive AgentStatus
  | idle
  | starting
  | running
  | awaitingInput
  | exited
deriving DecidableEq

inductive SessionStatus
  | active
  | closed
deriving DecidableEq

inductive Role
  | prime
  | child
deriving DecidableEq

structure GroupRow where
  name : String
  createdAtMs : UInt64
deriving DecidableEq

abbrev GroupTable := Table GroupRow String GroupRow.name

structure AgentRow where
  groupName : String
  name : String
  tokenHash : Bytes
  role : Role
  status : AgentStatus
deriving DecidableEq

namespace AgentRow

def key (r : AgentRow) : String × String := (r.groupName, r.name)

def withStatus (status : AgentStatus) (r : AgentRow) : AgentRow := { r with status }

lemma key_withStatus (status : AgentStatus) (r : AgentRow) : (r.withStatus status).key = r.key := rfl

end AgentRow

structure AgentTable extends Table AgentRow (String × String) AgentRow.key where
  tokens : (rows.map AgentRow.tokenHash).Nodup

structure SessionRow where
  groupName : String
  name : String
  primeAgent : String
  childAgent : String
  fsMode : FsMode
  status : SessionStatus
  createdAtMs : UInt64
deriving DecidableEq

namespace SessionRow

def key (r : SessionRow) : String × String := (r.groupName, r.name)

def withStatus (status : SessionStatus) (r : SessionRow) : SessionRow := { r with status }

lemma key_withStatus (status : SessionStatus) (r : SessionRow) :
    (r.withStatus status).key = r.key := rfl

end SessionRow

abbrev SessionTable := Table SessionRow (String × String) SessionRow.key

def GroupTable.groupCreate (t : GroupTable) (name : String) (now : UInt64) : GroupTable × Bool :=
  t.insertOrIgnore ⟨name, now⟩

namespace AgentTable

def empty : AgentTable := ⟨Table.empty, List.nodup_nil⟩

def taken (t : AgentTable) (row : AgentRow) : Bool :=
  t.rows.any fun r => r.key = row.key || r.tokenHash = row.tokenHash

lemma taken_eq_false {t : AgentTable} {row : AgentRow} :
    t.taken row = false ↔ ∀ r ∈ t.rows, r.key ≠ row.key ∧ r.tokenHash ≠ row.tokenHash := by
  simp [taken]

def agentRegister (t : AgentTable) (row : AgentRow) : AgentTable × Bool :=
  if h : t.taken row = true then (t, false)
  else
    have hnew := taken_eq_false.mp (Bool.eq_false_of_not_eq_true h)
    (⟨⟨t.rows ++ [row], Table.nodup_snoc (Table.has_eq_false.mpr fun r hr => (hnew r hr).1)⟩,
      nodup_map_snoc t.tokens fun r hr => (hnew r hr).2⟩, true)

def agentByToken (t : AgentTable) (tokenHash : Bytes) : Option AgentRow :=
  t.rows.find? fun r => r.tokenHash = tokenHash

def agentGet (t : AgentTable) (group name : String) : Option AgentRow :=
  t.find (group, name)

def updateStatus (t : AgentTable) (p : AgentRow → Bool) (status : AgentStatus) : AgentTable :=
  ⟨t.update p (AgentRow.withStatus status) (AgentRow.key_withStatus status), by
    have hsame : ∀ r : AgentRow, (if p r then r.withStatus status else r).tokenHash =
        r.tokenHash := by
      intro r
      split <;> rfl
    simpa [Table.update, Function.comp_def, hsame] using t.tokens⟩

def agentSetStatus (t : AgentTable) (group name : String) (status : AgentStatus) : AgentTable :=
  t.updateStatus (fun r => r.key = (group, name)) status

lemma agentRegister_ok {t : AgentTable} {row : AgentRow} (h : (t.agentRegister row).2 = true) :
    (t.agentRegister row).1.rows = t.rows ++ [row] ∧ ∀ r ∈ t.rows, r.key ≠ row.key := by
  rw [agentRegister] at h ⊢
  split
  · next htaken => simp [htaken] at h
  · next htaken =>
    have hnew := taken_eq_false.mp (Bool.eq_false_of_not_eq_true htaken)
    exact ⟨rfl, fun r hr => (hnew r hr).1⟩

lemma agentRegister_ignored {t : AgentTable} {row : AgentRow}
    (h : (t.agentRegister row).2 = false) : (t.agentRegister row).1 = t := by
  rw [agentRegister] at h ⊢
  split
  · rfl
  · next htaken => simp [htaken] at h

lemma agentByToken_some {t : AgentTable} {tokenHash : Bytes} {r : AgentRow}
    (h : t.agentByToken tokenHash = some r) : r ∈ t.rows :=
  List.mem_of_find?_eq_some h

end AgentTable

namespace SessionTable

def sessionCreate (t : SessionTable) (row : SessionRow) : SessionTable × Bool :=
  t.insertOrIgnore row

def sessionGet (t : SessionTable) (group name : String) : Option SessionRow :=
  t.find (group, name)

def sessionClose (t : SessionTable) (group name : String) : SessionTable :=
  t.update (fun r => r.key = (group, name)) (SessionRow.withStatus .closed)
    (SessionRow.key_withStatus .closed)

def sessionList (t : SessionTable) (group : String) : List SessionRow :=
  (t.rows.filter fun r => r.groupName = group).insertionSort fun r r' =>
    r.createdAtMs.toInt64 ≤ r'.createdAtMs.toInt64

lemma mem_sessionList {t : SessionTable} {group : String} {r : SessionRow} :
    r ∈ t.sessionList group ↔ r ∈ t.rows ∧ r.groupName = group := by
  simp [sessionList, List.mem_insertionSort]

end SessionTable

def reconcileStaleAgents (agents : AgentTable) (sessions : SessionTable) :
    AgentTable × SessionTable :=
  (agents.updateStatus (fun r => r.status = .starting || r.status = .running ||
      r.status = .awaitingInput) .exited,
    sessions.update (fun r => r.status = .active) (SessionRow.withStatus .closed)
      (SessionRow.key_withStatus .closed))

end WalkieTalkie.Store
