import WalkieTalkie.Store.Agents
import WalkieTalkie.Store.Bus

/-! The part of the store that belongs to one group. What an operation does within the group can be
seen on this part alone, and what it does in another group leaves the part as it is. Tokens are the
exception: an agent is looked up by its token in all groups, so here the token has to be one of the
group's own. -/

namespace WalkieTalkie.Store

open Proto Lib

variable {g : String}

namespace GroupTable

def scope (t : GroupTable) (g : String) : GroupTable := t.select fun r => r.name = g

lemma groupCreate_scope (t : GroupTable) (now : UInt64) : (scope t g).groupCreate g now =
    (scope (t.groupCreate g now).1 g, (t.groupCreate g now).2) :=
  Table.select_insertOrIgnore (by simp) (by simp)

lemma groupCreate_scope_other (t : GroupTable) {name : String} (now : UInt64) (h : name ≠ g) :
    scope (t.groupCreate name now).1 g = scope t g :=
  Table.select_insertOrIgnore_other (by simp [h])

end GroupTable

namespace AgentTable

lemma ext_rows {t t' : AgentTable} (h : t.rows = t'.rows) : t = t' := by
  obtain ⟨t, _⟩ := t
  obtain ⟨t', _⟩ := t'
  obtain rfl : t = t' := Table.ext_rows h
  rfl

def scope (t : AgentTable) (g : String) : AgentTable :=
  ⟨t.select fun r => r.groupName = g, t.tokens.sublist (List.filter_sublist.map _)⟩

variable {t : AgentTable}

lemma agentByToken_scope {tokenHash : Bytes}
    (h : ∀ r ∈ t.rows, r.tokenHash = tokenHash → r.groupName = g) :
    (t.scope g).agentByToken tokenHash = t.agentByToken tokenHash := by
  simp only [agentByToken, scope, Table.select, List.find?_filter]
  refine find?_congr fun r hr => ?_
  by_cases hx : r.tokenHash = tokenHash
  · simp [hx, h r hr hx]
  · simp [hx]

lemma agentGet_scope (name : String) : (t.scope g).agentGet g name = t.agentGet g name :=
  Table.select_find fun _ hr => decide_eq_true (congrArg Prod.fst hr)

lemma taken_scope {row : AgentRow} (hg : row.groupName = g)
    (h : ∀ r ∈ t.rows, r.tokenHash = row.tokenHash → r.groupName = g) :
    (t.scope g).taken row = t.taken row := by
  rw [Bool.eq_iff_iff]
  simp only [taken, scope, Table.select, List.any_eq_true, List.mem_filter]
  constructor
  · rintro ⟨r, ⟨hr, _⟩, htaken⟩
    exact ⟨r, hr, htaken⟩
  · rintro ⟨r, hr, htaken⟩
    refine ⟨r, ⟨hr, ?_⟩, htaken⟩
    simp only [Bool.or_eq_true, decide_eq_true_eq] at htaken ⊢
    rcases htaken with hk | htoken
    · exact (congrArg Prod.fst hk).trans hg
    · exact h r hr htoken

lemma agentRegister_scope {row : AgentRow} (hg : row.groupName = g)
    (h : ∀ r ∈ t.rows, r.tokenHash = row.tokenHash → r.groupName = g) :
    (t.scope g).agentRegister row =
      ((t.agentRegister row).1.scope g, (t.agentRegister row).2) := by
  have hsame := taken_scope hg h
  cases htaken : t.taken row with
  | true =>
    rw [htaken] at hsame
    simp [agentRegister, htaken, hsame]
  | false =>
    rw [htaken] at hsame
    rw [agentRegister, dif_neg (by simp [hsame]), agentRegister, dif_neg (by simp [htaken])]
    refine Prod.ext (ext_rows ?_) rfl
    simp [scope, Table.select, hg]

lemma agentRegister_scope_other {row : AgentRow} (hg : row.groupName ≠ g) :
    (t.agentRegister row).1.scope g = t.scope g := by
  rw [agentRegister]
  split
  · rfl
  · refine ext_rows ?_
    simp [scope, Table.select, hg]

lemma updateStatus_scope (p : AgentRow → Bool) (status : AgentStatus) :
    (t.updateStatus p status).scope g = (t.scope g).updateStatus p status :=
  ext_rows (congrArg Table.rows (Table.select_update (AgentRow.key_withStatus status) fun _ => rfl))

lemma agentSetStatus_scope (name : String) (status : AgentStatus) :
    (t.agentSetStatus g name status).scope g = (t.scope g).agentSetStatus g name status :=
  updateStatus_scope _ status

lemma agentSetStatus_scope_other {group : String} (name : String) (status : AgentStatus)
    (h : group ≠ g) : (t.agentSetStatus group name status).scope g = t.scope g := by
  refine ext_rows (congrArg Table.rows
    (Table.select_update_other (AgentRow.key_withStatus status) (fun _ => rfl) ?_))
  intro r hr
  have hk : r.groupName = group := congrArg Prod.fst (of_decide_eq_true hr)
  exact decide_eq_false (hk ▸ h)

end AgentTable

namespace SessionTable

def scope (t : SessionTable) (g : String) : SessionTable := t.select fun r => r.groupName = g

variable {t : SessionTable}

lemma sessionGet_scope (name : String) : (scope t g).sessionGet g name = t.sessionGet g name :=
  Table.select_find fun _ hr => decide_eq_true (congrArg Prod.fst hr)

lemma sessionCreate_scope {row : SessionRow} (hg : row.groupName = g) :
    (scope t g).sessionCreate row =
      (scope (t.sessionCreate row).1 g, (t.sessionCreate row).2) :=
  Table.select_insertOrIgnore (decide_eq_true hg) fun _ hr =>
    decide_eq_true ((congrArg Prod.fst hr).trans hg)

lemma sessionCreate_scope_other {row : SessionRow} (hg : row.groupName ≠ g) :
    scope (t.sessionCreate row).1 g = scope t g :=
  Table.select_insertOrIgnore_other (decide_eq_false hg)

lemma sessionClose_scope (name : String) :
    scope (t.sessionClose g name) g = (scope t g).sessionClose g name :=
  Table.select_update (SessionRow.key_withStatus .closed) fun _ => rfl

lemma sessionClose_scope_other {group : String} (name : String) (h : group ≠ g) :
    scope (t.sessionClose group name) g = scope t g := by
  refine Table.select_update_other (SessionRow.key_withStatus .closed) (fun _ => rfl) ?_
  intro r hr
  have hk : r.groupName = group := congrArg Prod.fst (of_decide_eq_true hr)
  exact decide_eq_false (hk ▸ h)

lemma sessionList_scope : (scope t g).sessionList g = t.sessionList g := by
  simp [sessionList, scope, Table.select]

end SessionTable

namespace BusTable

def scope (t : BusTable) (g : String) : BusTable := t.select fun r => r.groupName = g

variable {t : BusTable}

lemma filter_scope {p : AgentMsgRow → Bool} (h : ∀ r, p r = true → r.groupName = g) :
    (scope t g).rows.filter p = t.rows.filter p := by
  simp only [scope, Table.select, List.filter_filter]
  refine List.filter_congr fun r _ => ?_
  cases hp : p r with
  | true => simp [h r hp]
  | false => simp

lemma lastSeq_scope (session : String) : (scope t g).lastSeq g session = t.lastSeq g session := by
  rw [lastSeq, lastSeq, filter_scope fun r hr => (AgentMsgRow.inSession_iff.mp hr).1]

lemma pending_scope (toAgent : String) (kind : AgentMsgKind) :
    (scope t g).pending g toAgent kind = t.pending g toAgent kind := by
  refine filter_scope fun r hr => ?_
  simp only [Bool.and_eq_true, decide_eq_true_eq] at hr
  exact hr.1.1.1

lemma backlogRows_scope (toAgent : String) (session : Option String) (afterMs : Option UInt64)
    (unconsumedOnly : Bool) : (scope t g).backlogRows g toAgent session afterMs unconsumedOnly =
      t.backlogRows g toAgent session afterMs unconsumedOnly := by
  refine filter_scope fun r hr => ?_
  simp only [Bool.and_eq_true, decide_eq_true_eq] at hr
  exact hr.1.1.1.1

lemma agentMsgEnqueue_scope (session fromAgent toAgent : String) (kind : AgentMsgKind)
    (payload : Bytes) (now : UInt64) :
    (scope t g).agentMsgEnqueue g session fromAgent toAgent kind payload now =
      (t.agentMsgEnqueue g session fromAgent toAgent kind payload now).map
        fun x => (scope x.1 g, x.2) := by
  have hinsert : ∀ row : AgentMsgRow, row.groupName = g →
      (scope t g).insert row = (t.insert row).map fun t' => scope t' g :=
    fun row hg => Table.select_insert (decide_eq_true hg) fun _ hr =>
      decide_eq_true ((congrArg Prod.fst hr).trans hg)
  simp only [agentMsgEnqueue, lastSeq_scope]
  rw [hinsert _ rfl]
  cases t.insert _ with
  | none => rfl
  | some t' =>
    simp only [Option.map_some, Except.map]
    rw [scope, scope, Table.select_delete]

lemma agentMsgEnqueue_scope_other {group : String} {session fromAgent toAgent : String}
    {kind : AgentMsgKind} {payload : Bytes} {now : UInt64} {t' : BusTable} {row : AgentMsgRow}
    (h : group ≠ g)
    (he : t.agentMsgEnqueue group session fromAgent toAgent kind payload now = .ok (t', row)) :
    scope t' g = scope t g := by
  simp only [agentMsgEnqueue] at he
  split at he
  · cases he
  · next t'' hi =>
    obtain ⟨rfl, rfl⟩ := Prod.mk.inj (Except.ok.inj he)
    rw [scope, Table.select_delete_other]
    · refine Table.ext_rows ?_
      simp [scope, Table.select, Table.insert_rows hi, h]
    · intro r hr
      simp only [Bool.and_eq_true, AgentMsgRow.inSession_iff] at hr
      exact decide_eq_false (hr.1.1 ▸ h)

lemma agentMsgMarkConsumed_scope (session : String) (seq : ℕ) (now : UInt64) :
    scope (t.agentMsgMarkConsumed g session seq now) g =
      (scope t g).agentMsgMarkConsumed g session seq now :=
  Table.select_update (AgentMsgRow.key_consumedAt now) fun _ => rfl

lemma agentMsgMarkConsumed_scope_other {group : String} (session : String) (seq : ℕ) (now : UInt64)
    (h : group ≠ g) : scope (t.agentMsgMarkConsumed group session seq now) g = scope t g := by
  refine Table.select_update_other (AgentMsgRow.key_consumedAt now) (fun _ => rfl) ?_
  intro r hr
  have hk : r.groupName = group := congrArg Prod.fst (of_decide_eq_true hr)
  exact decide_eq_false (hk ▸ h)

end BusTable

lemma reconcileStaleAgents_scope (agents : AgentTable) (sessions : SessionTable) :
    reconcileStaleAgents (agents.scope g) (SessionTable.scope sessions g) =
      ((reconcileStaleAgents agents sessions).1.scope g,
        SessionTable.scope (reconcileStaleAgents agents sessions).2 g) :=
  Prod.ext (AgentTable.updateStatus_scope _ _).symm
    (Table.select_update (SessionRow.key_withStatus .closed) fun _ => rfl).symm

end WalkieTalkie.Store
