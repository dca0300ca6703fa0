import WalkieTalkie.Store.Agents

/-! The rows of agents and sessions with all their columns. What the handlers decide rests on the
columns of `AgentRow` and `SessionRow` alone: every call does to these, seen as tables of their own,
what the functions of the smaller tables do, and the heartbeat does nothing to them. -/

namespace WalkieTalkie.Store

open Proto Lib

structure MetaRow where
  key : String
  value : Bytes
deriving DecidableEq

abbrev MetaTable := Table MetaRow String MetaRow.key

def MetaTable.metaGet (t : MetaTable) (key : String) : Option Bytes :=
  (t.find key).map MetaRow.value

structure AgentRecord extends AgentRow where
  dir : Option String
  pid : Option Int64
  createdAtMs : UInt64
  lastSeenMs : Option UInt64
deriving DecidableEq

structure SessionRecord extends SessionRow where
  baseDir : Option String
  workspacePath : String
  branch : Option String
deriving DecidableEq

def AgentRecord.key (r : AgentRecord) : String × String := r.toAgentRow.key

def SessionRecord.key (r : SessionRecord) : String × String := r.toSessionRow.key

structure AgentRecords extends Table AgentRecord (String × String) AgentRecord.key where
  tokens : (rows.map fun r => r.tokenHash).Nodup

abbrev SessionRecords := Table SessionRecord (String × String) SessionRecord.key

/-- `ORDER BY created_at_ms, rowid`: rows stand in the table in the order of their row ids. -/
def earlierFirst {ρ : Type} (createdAtMs : ρ → UInt64) (rows : List ρ) : List ρ :=
  rows.insertionSort fun r r' => (createdAtMs r).toInt64 ≤ (createdAtMs r').toInt64

lemma map_earlierFirst {ρ ρ' : Type} {createdAtMs : ρ → UInt64} (createdAtMs' : ρ' → UInt64)
    {f : ρ → ρ'} (h : ∀ r, createdAtMs' (f r) = createdAtMs r) (rows : List ρ) :
    (earlierFirst createdAtMs rows).map f = earlierFirst createdAtMs' (rows.map f) := by
  refine List.map_insertionSort _ _ _ _ fun r _ r' _ => ?_
  rw [h, h]

namespace AgentRecords

def empty : AgentRecords := ⟨Table.empty, List.nodup_nil⟩

def columns (t : AgentRecords) : AgentTable :=
  ⟨t.project AgentRecord.toAgentRow fun _ => rfl, by
    simpa [Table.project, Function.comp_def] using t.tokens⟩

def taken (t : AgentRecords) (row : AgentRecord) : Bool :=
  t.rows.any fun r => r.key = row.key || r.tokenHash = row.tokenHash

lemma taken_eq_false {t : AgentRecords} {row : AgentRecord} :
    t.taken row = false ↔ ∀ r ∈ t.rows, r.key ≠ row.key ∧ r.tokenHash ≠ row.tokenHash := by
  simp [taken]

def agentRegister (t : AgentRecords) (row : AgentRecord) : AgentRecords × Bool :=
  if h : t.taken row = true then (t, false)
  else
    have hnew := taken_eq_false.mp (Bool.eq_false_of_not_eq_true h)
    (⟨⟨t.rows ++ [row], Table.nodup_snoc (Table.has_eq_false.mpr fun r hr => (hnew r hr).1)⟩,
      nodup_map_snoc t.tokens fun r hr => (hnew r hr).2⟩, true)

def agentByToken (t : AgentRecords) (tokenHash : Bytes) : Option AgentRecord :=
  t.rows.find? fun r => r.tokenHash = tokenHash

def agentGet (t : AgentRecords) (group name : String) : Option AgentRecord :=
  t.find (group, name)

def agentList (t : AgentRecords) (group : Option String) : List AgentRecord :=
  earlierFirst AgentRecord.createdAtMs (t.rows.filter fun r => group.all (r.groupName = ·))

def modify (t : AgentRecords) (p : AgentRecord → Bool) (f : AgentRecord → AgentRecord)
    (hkey : ∀ r, (f r).key = r.key) (htoken : ∀ r, (f r).tokenHash = r.tokenHash) : AgentRecords :=
  ⟨t.update p f hkey, by
    have hsame : ∀ r : AgentRecord, (if p r then f r else r).tokenHash = r.tokenHash := by
      intro r
      split
      · exact htoken r
      · rfl
    simpa [Table.update, Function.comp_def, hsame] using t.tokens⟩

def agentSetStatus (t : AgentRecords) (group name : String) (status : AgentStatus)
    (pid : Option Int64) (now : UInt64) : AgentRecords :=
  t.modify (fun r => r.key = (group, name))
    (fun r => { r with status, pid := pid <|> r.pid, lastSeenMs := some now })
    (fun _ => rfl) (fun _ => rfl)

def agentTouch (t : AgentRecords) (group name : String) (now : UInt64) : AgentRecords :=
  t.modify (fun r => r.key = (group, name)) (fun r => { r with lastSeenMs := some now })
    (fun _ => rfl) (fun _ => rfl)

def stale (r : AgentRecord) : Bool :=
  r.status = .starting || r.status = .running || r.status = .awaitingInput

def reconcileStale (t : AgentRecords) : AgentRecords :=
  t.modify stale (fun r => { r with status := .exited }) (fun _ => rfl) (fun _ => rfl)

variable {t t' : AgentRecords}

lemma ext_columns {t t' : AgentTable} (h : t.rows = t'.rows) : t = t' := by
  obtain ⟨t, _⟩ := t
  obtain ⟨t', _⟩ := t'
  obtain rfl : t = t' := Table.ext_rows h
  rfl

lemma taken_columns (row : AgentRecord) : t.columns.taken row.toAgentRow = t.taken row := by
  simp only [AgentTable.taken, taken, columns, Table.project, List.any_map]
  rfl

lemma columns_agentRegister (row : AgentRecord) : t.columns.agentRegister row.toAgentRow =
    ((t.agentRegister row).1.columns, (t.agentRegister row).2) := by
  have hsame := taken_columns (t := t) row
  cases htaken : t.taken row with
  | true =>
    rw [htaken] at hsame
    simp [AgentTable.agentRegister, agentRegister, hsame, htaken]
  | false =>
    rw [htaken] at hsame
    simp only [AgentTable.agentRegister, agentRegister, hsame, htaken, Bool.false_eq_true, dite_false]
    refine Prod.ext (ext_columns ?_) rfl
    simp [columns, Table.project]

lemma columns_agentByToken (tokenHash : Bytes) :
    t.columns.agentByToken tokenHash = (t.agentByToken tokenHash).map AgentRecord.toAgentRow := by
  simp only [AgentTable.agentByToken, agentByToken, columns, Table.project, List.find?_map,
    Function.comp_def]

lemma columns_agentGet (group name : String) :
    t.columns.agentGet group name = (t.agentGet group name).map AgentRecord.toAgentRow :=
  Table.project_find (fun _ => rfl) _

section

variable {p : AgentRecord → Bool} {f : AgentRecord → AgentRecord} {hkey : ∀ r, (f r).key = r.key}
  {htoken : ∀ r, (f r).tokenHash = r.tokenHash}

lemma columns_modify {p' : AgentRow → Bool} {status : AgentStatus}
    (hp : ∀ r : AgentRecord, p' r.toAgentRow = p r)
    (hf : ∀ r, (f r).toAgentRow = r.toAgentRow.withStatus status) :
    (t.modify p f hkey htoken).columns = t.columns.updateStatus p' status :=
  ext_columns (congrArg Table.rows
    (Table.project_update (fun _ => rfl) hkey (AgentRow.key_withStatus status) hp hf))

lemma columns_modify_same (hf : ∀ r, (f r).toAgentRow = r.toAgentRow) :
    (t.modify p f hkey htoken).columns = t.columns :=
  ext_columns (congrArg Table.rows (Table.project_update_same (fun _ => rfl) hkey hf))

end

lemma columns_agentSetStatus (group name : String) (status : AgentStatus) (pid : Option Int64)
    (now : UInt64) : (t.agentSetStatus group name status pid now).columns =
      t.columns.agentSetStatus group name status :=
  columns_modify (fun _ => rfl) fun _ => rfl

lemma columns_agentTouch (group name : String) (now : UInt64) :
    (t.agentTouch group name now).columns = t.columns :=
  columns_modify_same fun _ => rfl

end AgentRecords

namespace SessionRecords

def columns (t : SessionRecords) : SessionTable := t.project SessionRecord.toSessionRow fun _ => rfl

def withStatus (status : SessionStatus) (r : SessionRecord) : SessionRecord := { r with status }

lemma key_withStatus (status : SessionStatus) (r : SessionRecord) :
    (withStatus status r).key = r.key := rfl

def sessionCreate (t : SessionRecords) (row : SessionRecord) : SessionRecords × Bool :=
  t.insertOrIgnore row

def sessionGet (t : SessionRecords) (group name : String) : Option SessionRecord :=
  t.find (group, name)

def sessionList (t : SessionRecords) (group : String) : List SessionRecord :=
  earlierFirst (fun r => r.createdAtMs) (t.rows.filter fun r => r.groupName = group)

def sessionClose (t : SessionRecords) (group name : String) : SessionRecords × ℕ :=
  (t.update (fun r => r.key = (group, name)) (withStatus .closed) (key_withStatus .closed),
    (t.rows.filter fun r => r.key = (group, name)).length)

def closeActive (t : SessionRecords) : SessionRecords :=
  t.update (fun r => r.status = .active) (withStatus .closed) (key_withStatus .closed)

variable {t : SessionRecords}

lemma columns_sessionCreate (row : SessionRecord) : t.columns.sessionCreate row.toSessionRow =
    ((t.sessionCreate row).1.columns, (t.sessionCreate row).2) :=
  Table.project_insertOrIgnore (fun _ => rfl) row

lemma columns_sessionGet (group name : String) :
    t.columns.sessionGet group name = (t.sessionGet group name).map SessionRecord.toSessionRow :=
  Table.project_find (fun _ => rfl) _

lemma columns_sessionList (group : String) :
    t.columns.sessionList group = (t.sessionList group).map SessionRecord.toSessionRow := by
  rw [sessionList, map_earlierFirst SessionRow.createdAtMs fun _ => rfl]
  simp only [SessionTable.sessionList, earlierFirst, columns, Table.project, List.filter_map,
    Function.comp_def]

lemma columns_update {p : SessionRecord → Bool} {p' : SessionRow → Bool} {status : SessionStatus}
    (hp : ∀ r : SessionRecord, p' r.toSessionRow = p r) :
    columns (t.update p (withStatus status) (key_withStatus status)) =
      t.columns.update p' (SessionRow.withStatus status) (SessionRow.key_withStatus status) :=
  Table.project_update _ _ _ hp fun _ => rfl

lemma columns_sessionClose (group name : String) :
    (t.sessionClose group name).1.columns = t.columns.sessionClose group name :=
  columns_update fun _ => rfl

end SessionRecords

lemma columns_reconcileStaleAgents (agents : AgentRecords) (sessions : SessionRecords) :
    reconcileStaleAgents agents.columns sessions.columns =
      (agents.reconcileStale.columns, sessions.closeActive.columns) :=
  Prod.ext (AgentRecords.columns_modify (fun _ => rfl) fun _ => rfl).symm
    (SessionRecords.columns_update fun _ => rfl).symm

end WalkieTalkie.Store
