import WalkieTalkie.Orchestration.Routing
import WalkieTalkie.Sessions.System

/-! The reports of the supervisors as an invariant. The outputs and traces of a session on the bus,
with the one that its supervisor has in hand, are what it owes for the events of its harness. No two
sessions have one name, and every report is of a session that is supervised. -/

namespace WalkieTalkie.Sessions

open Proto Store Lib Lib.Runs
open Orchestration (SpawnPc)
open Orchestration.Clients (Sorting)
open Orchestration.Requests (Spawn Outgoing textBytes primeRow)

def isReport (kind : AgentMsgKind) : Bool := kind = .turnOutput || kind = .trace

/-- The rows of a session that are outputs or traces. -/
def reports (bus : BusTable) (group session : String) : List AgentMsgRow :=
  bus.rows.filter fun r => r.inSession group session && isReport r.kind

def view (r : AgentMsgRow) : AgentMsgKind × String × String × Bytes :=
  (r.kind, r.fromAgent, r.toAgent, r.payload)

def Supervisor.view (sup : Supervisor) (x : AgentMsgKind × String) :
    AgentMsgKind × String × String × Bytes :=
  (x.1, sup.session, sup.prime, textBytes x.2)

def Supervisor.owes (sup : Supervisor) : HarnessEvent → Option (AgentMsgKind × String)
  | .assistantText text => if sup.trace then some (.trace, text) else none
  | .turnComplete result _ => some (.turnOutput, result)
  | .exited _ => none

structure SupervisorOk (fromStr : String → Option Json) (bus : BusTable) (sup : Supervisor) : Prop where
  due : (reports bus sup.group sup.session).map view ++ sup.phase.due.map sup.view =
    (sup.events.filterMap sup.owes).map sup.view
  turn : ∀ result, sup.phase = .turnOutput result →
    ∃ isError, sup.events.getLast? = some (.turnComplete result isError)
  awaiting : sup.phase = .setAwaiting →
    ∃ result isError, sup.events.getLast? = some (.turnComplete result isError)
  stdout : eventsOf fromStr sup.stdout = sup.events ++ eventsOf fromStr sup.buf
  unfinished : Lines.unfinished newline [] sup.stdout = Lines.unfinished newline [] sup.buf
  eof : sup.eof = true → eventsOf fromStr sup.buf = [] ∧ sup.phase.closing = true

def launching : SpawnPc → Bool
  | .sessionCreate | .harnessSpawn | .setRunning | .recordPrompt | .consumePrompt | .spawnTask => true
  | _ => false

def created : SpawnPc → Bool
  | .harnessSpawn | .setRunning | .recordPrompt | .consumePrompt | .spawnTask => true
  | _ => false

def started : SpawnPc → Bool
  | .registerChild | .done _ => true
  | _ => false

def Session.key (se : Session) : String × String := (se.spawn.group, se.spawn.session)

/-- The session has its name. -/
def Session.claims (se : Session) : Bool := se.supervisor.isSome || launching se.spawn.pc

structure SessionOk (fromStr : String → Option Json) (store : Db) (se : Session) : Prop where
  named : ∀ sup ∈ se.supervisor, sup.group = se.spawn.group ∧ sup.session = se.spawn.session ∧
    sup.prime = se.spawn.prime ∧ sup.trace = se.trace
  registered : se.claims = true → ∃ a ∈ store.agents.rows, a.key = se.key
  created : se.supervisor.isSome = true ∨ created se.spawn.pc = true →
    se.spawn.sessionRow ∈ store.sessions.rows
  started : se.supervisor.isSome = true → started se.spawn.pc = true
  supervisor : ∀ sup ∈ se.supervisor, SupervisorOk fromStr store.bus sup

structure Invariant (fromStr : String → Option Json) (st : State) : Prop where
  sessions : ∀ se ∈ st.sessions, SessionOk fromStr st.store se
  distinct : ∀ key, AtMostOne (fun se : Session => se.claims = true ∧ se.key = key) st.sessions
  reported : ∀ r ∈ st.store.bus.rows, isReport r.kind = true →
    ∃ se ∈ st.sessions, se.supervisor.isSome = true ∧ se.key = (r.groupName, r.sessionName)
  ordered : st.store.bus.rows.Pairwise fun r r' => sameSession r r' → r.seq < r'.seq

variable {fromStr : String → Option Json} {O : Sorting} {store store' : Db} {sup sup' : Supervisor}
  {se : Session} {st st' : State} {now : UInt64}

lemma reports_enqueue {bus bus' : BusTable} {row : AgentMsgRow} (hrows : bus'.rows = bus.rows ++ [row])
    {group session : String} (hother : row.inSession group session = false ∨ isReport row.kind = false) :
    reports bus' group session = reports bus group session := by
  rw [reports, hrows, List.filter_append, List.filter_cons_of_neg, List.filter_nil, List.append_nil]
  · rfl
  · rcases hother with h | h
    · rw [h]
      exact Bool.false_ne_true
    · rw [h, Bool.and_false]
      exact Bool.false_ne_true

lemma reports_own {bus bus' : BusTable} {row : AgentMsgRow} (hrows : bus'.rows = bus.rows ++ [row])
    (hkind : isReport row.kind = true) :
    reports bus' row.groupName row.sessionName = reports bus row.groupName row.sessionName ++ [row] := by
  rw [reports, hrows, List.filter_append, List.filter_cons_of_pos, List.filter_nil]
  · rfl
  · rw [hkind, Bool.and_true]
    exact AgentMsgRow.inSession_iff.mpr ⟨rfl, rfl⟩

lemma reports_mark {bus : BusTable} {group session group' session' : String} {seq : ℕ} :
    (reports (bus.agentMsgMarkConsumed group' session' seq now) group session).map view =
      (reports bus group session).map view := by
  let f : AgentMsgRow → AgentMsgRow := fun r =>
    if decide (r.key = (group', session', seq)) then r.consumedAt now else r
  have hfilter : ((fun r : AgentMsgRow => r.inSession group session && isReport r.kind) ∘ f) =
      fun r => r.inSession group session && isReport r.kind := by
    funext r
    simp only [f, Function.comp]
    split <;> rfl
  have hview : view ∘ f = view := by
    funext r
    simp only [f, Function.comp]
    split <;> rfl
  have hrows : (bus.agentMsgMarkConsumed group' session' seq now).rows = bus.rows.map f := rfl
  rw [reports, hrows, List.filter_map, List.map_map, hview, hfilter]
  rfl

lemma SupervisorOk.reading {bus : BusTable} (h : SupervisorOk fromStr bus sup)
    (hopen : sup.phase.closing = false) (he : sup.eof = true) : False := by
  have hclosing := (h.eof he).2
  rw [hopen] at hclosing
  cases hclosing

lemma SupervisorOk.frame {bus bus' : BusTable} (h : SupervisorOk fromStr bus sup)
    (hreports : (reports bus' sup.group sup.session).map view =
      (reports bus sup.group sup.session).map view) : SupervisorOk fromStr bus' sup where
  due := hreports ▸ h.due
  turn := h.turn
  awaiting := h.awaiting
  stdout := h.stdout
  unfinished := h.unfinished
  eof := h.eof

lemma SupervisorOk.onward {bus : BusTable} (h : SupervisorOk fromStr bus sup) {phase : Phase}
    (honward : sup.phase.Onward phase) (turnActive idleNotified : Bool) :
    SupervisorOk fromStr bus { sup with phase, turnActive, idleNotified } where
  due := by
    have hdue := h.due
    rw [honward.free.1] at hdue
    rw [honward.free'.1]
    exact hdue
  turn result hphase := by
    obtain rfl : phase = .turnOutput result := hphase
    cases honward.free'.1
  awaiting hphase := (honward.free'.2 hphase).elim
  stdout := h.stdout
  unfinished := h.unfinished
  eof he := ⟨(h.eof he).1, honward.closing (h.eof he).2⟩

lemma SupervisorOk.noted {bus : BusTable} (h : SupervisorOk fromStr bus sup)
    (hphase : sup.phase = .select) {ev : HarnessEvent} {rest : Bytes} {phase : Phase}
    (hevents : eventsOf fromStr sup.buf = ev :: eventsOf fromStr rest)
    (hunfinished : Lines.unfinished newline [] sup.buf = Lines.unfinished newline [] rest)
    (hdue : phase.due = (sup.owes ev).toList) (hawaiting : phase ≠ .setAwaiting)
    (hturn : ∀ result, phase = .turnOutput result → ∃ isError, ev = .turnComplete result isError)
    (turnActive : Bool) :
    SupervisorOk fromStr bus { sup with
      buf := rest, events := sup.events ++ [ev], phase, turnActive, idleNotified := false } where
  due := by
    have hbefore := h.due
    rw [hphase] at hbefore
    have hone : [ev].filterMap sup.owes = (sup.owes ev).toList := by
      cases howes : sup.owes ev with
      | none => rw [List.filterMap_cons_none howes]; rfl
      | some x => rw [List.filterMap_cons_some howes]; rfl
    calc (reports bus sup.group sup.session).map view ++ phase.due.map sup.view
        = (sup.events.filterMap sup.owes).map sup.view ++ (sup.owes ev).toList.map sup.view := by
          rw [hdue, ← hbefore]
          simp [Phase.due]
      _ = ((sup.events ++ [ev]).filterMap sup.owes).map sup.view := by
          rw [List.filterMap_append, List.map_append, hone]
  turn result hp := by
    obtain ⟨isError, rfl⟩ := hturn result hp
    exact ⟨isError, List.getLast?_concat⟩
  awaiting hp := (hawaiting hp).elim
  stdout := by
    rw [h.stdout, hevents, List.append_assoc]
    rfl
  unfinished := h.unfinished.trans hunfinished
  eof he := (h.reading (by rw [hphase]; rfl) he).elim

lemma SupervisorOk.read {bus : BusTable} (h : SupervisorOk fromStr bus sup)
    (hphase : sup.phase = .select) {read : Read} {answer : Except String (Option HarnessEvent)}
    {buf : Bytes} (hnext : Next fromStr sup.buf read answer buf) :
    SupervisorOk fromStr bus ({ sup with buf }.handle read answer) := by
  have hdue := h.due
  rw [hphase] at hdue
  have hopen : sup.eof = true → False := h.reading (by rw [hphase]; rfl)
  have hstdout : eventsOf fromStr sup.buf = [] → eventsOf fromStr sup.stdout =
      sup.events ++ eventsOf fromStr (Lines.unfinished newline [] sup.buf) := by
    intro hnone
    rw [h.stdout, hnone, eventsOf_unfinished]
  have hunfinished : Lines.unfinished newline [] sup.stdout =
      Lines.unfinished newline [] (Lines.unfinished newline [] sup.buf) := by
    rw [Lines.unfinished_unfinished, h.unfinished]
  cases hnext with
  | @event ev rest hline hevents hunfinished =>
    cases ev with
    | assistantText text =>
      refine h.noted hphase hevents hunfinished ?_ ?_ ?_ _
      · rw [Supervisor.owes]
        split <;> rfl
      · split <;> exact Phase.noConfusion
      · intro result hp
        split at hp <;> cases hp
    | turnComplete result isError =>
      refine h.noted hphase hevents hunfinished rfl Phase.noConfusion ?_ _
      intro _ hp
      cases hp
      exact ⟨isError, rfl⟩
    | exited code => exact (hline code rfl).elim
  | @more bytes hread hnone =>
    subst hread
    refine ⟨by rw [← hphase] at hdue; exact hdue, ?_, ?_, ?_, ?_, fun he => (hopen he).elim⟩
    · intro result hp
      cases hphase.symm.trans hp
    · intro hp
      cases hphase.symm.trans hp
    · change eventsOf fromStr (sup.stdout ++ bytes) =
        sup.events ++ eventsOf fromStr (Lines.unfinished newline [] sup.buf ++ bytes)
      rw [eventsOf_append, eventsOf_append, hstdout hnone, hunfinished, List.append_assoc]
    · change Lines.unfinished newline [] (sup.stdout ++ bytes) =
        Lines.unfinished newline [] (Lines.unfinished newline [] sup.buf ++ bytes)
      rw [Lines.unfinished_append, Lines.unfinished_append, hunfinished]
  | closed hnone => exact ⟨hdue, fun _ hp => (by cases hp), fun hp => (by cases hp), hstdout hnone,
      hunfinished, fun _ => ⟨eventsOf_unfinished _, rfl⟩⟩
  | failed hnone => exact ⟨hdue, fun _ hp => (by cases hp), fun hp => (by cases hp), hstdout hnone,
      hunfinished, fun he => (hopen he).elim⟩

/-- A step that writes no report and takes nothing away. -/
structure Silent (store store' : Db) : Prop where
  agents : ∀ a ∈ store.agents.rows, ∃ a' ∈ store'.agents.rows, a'.key = a.key
  sessions : ∀ s ∈ store.sessions.rows, s ∈ store'.sessions.rows
  reports : ∀ group session, (reports store'.bus group session).map view =
    (reports store.bus group session).map view
  reported : ∀ r ∈ store'.bus.rows, isReport r.kind = true → ∃ o ∈ store.bus.rows,
    isReport o.kind = true ∧ o.groupName = r.groupName ∧ o.sessionName = r.sessionName
  ordered : (store.bus.rows.Pairwise fun r r' => sameSession r r' → r.seq < r'.seq) →
    store'.bus.rows.Pairwise fun r r' => sameSession r r' → r.seq < r'.seq

lemma Silent.of_bus (hbus : store'.bus = store.bus)
    (hagents : ∀ a ∈ store.agents.rows, ∃ a' ∈ store'.agents.rows, a'.key = a.key)
    (hsessions : ∀ s ∈ store.sessions.rows, s ∈ store'.sessions.rows) : Silent store store' where
  agents := hagents
  sessions := hsessions
  reports _ _ := by rw [hbus]
  reported r hr hk := ⟨r, hbus ▸ hr, hk, rfl, rfl⟩
  ordered h := hbus ▸ h

lemma Silent.refl (store : Db) : Silent store store :=
  .of_bus rfl (fun a ha => ⟨a, ha, rfl⟩) fun _ hs => hs

lemma silent_setStatus (store : Db) (group name : String) (status : AgentStatus) :
    Silent store { store with agents := store.agents.agentSetStatus group name status } := by
  refine .of_bus rfl (fun a ha => ⟨_, List.mem_map_of_mem ha, ?_⟩) fun _ hs => hs
  split <;> rfl

lemma silent_register (store : Db) (row : AgentRow) :
    Silent store { store with agents := (store.agents.agentRegister row).1 } := by
  refine .of_bus rfl (fun a ha => ⟨a, ?_, rfl⟩) fun _ hs => hs
  cases hok : (store.agents.agentRegister row).2 with
  | true =>
    rw [(AgentTable.agentRegister_ok hok).1]
    exact List.mem_append_left _ ha
  | false =>
    rw [AgentTable.agentRegister_ignored hok]
    exact ha

lemma silent_create (store : Db) (row : SessionRow) :
    Silent store { store with sessions := (store.sessions.sessionCreate row).1 } :=
  .of_bus rfl (fun a ha => ⟨a, ha, rfl⟩) fun _ hs => Table.mem_insertOrIgnore.mpr (Or.inl hs)

lemma silent_mark (store : Db) (group session : String) (seq : ℕ) (now : UInt64) :
    Silent store
      { store with bus := store.bus.agentMsgMarkConsumed group session seq now } where
  agents a ha := ⟨a, ha, rfl⟩
  sessions _ hs := hs
  reports _ _ := reports_mark
  reported r hr hk := by
    obtain ⟨o, ho, rfl⟩ := BusTable.mem_agentMsgMarkConsumed.mp hr
    refine ⟨o, ho, ?_⟩
    split at hk
    · next hkey =>
      rw [if_pos hkey]
      exact ⟨hk, rfl, rfl⟩
    · next hkey =>
      rw [if_neg hkey]
      exact ⟨hk, rfl, rfl⟩
  ordered h := by
    refine List.pairwise_map.mpr (h.imp fun {r r'} hlt => ?_)
    split <;> split <;> exact hlt

structure Enqueued (store store' : Db) (out : Outgoing) (row : AgentMsgRow) : Prop where
  rows : store'.bus.rows = store.bus.rows ++ [row]
  group : row.groupName = out.group
  session : row.sessionName = out.session
  view : view row = (out.kind, out.fromAgent, out.toAgent, out.payload)
  last : ∀ r ∈ store.bus.rows, sameSession r row → r.seq < row.seq
  agents : store'.agents = store.agents
  sessions : store'.sessions = store.sessions

lemma enqueued {out : Outgoing} {seq : ℕ} (henq : store.busEnqueue out now = .ok (store', seq))
    (hkept : ∀ r ∈ store.bus.rows, store'.bus.has r.key = true) :
    ∃ row, Enqueued store store' out row := by
  obtain ⟨bus, row, hbus, rfl⟩ := Orchestration.Routing.busEnqueue_ok henq
  have hrows := BusTable.agentMsgEnqueue_rows hbus hkept
  obtain ⟨rfl, -⟩ := BusTable.agentMsgEnqueue_ok hbus
  refine ⟨_, hrows, rfl, rfl, rfl, fun r hr hsame => ?_, rfl, rfl⟩
  exact Nat.lt_succ_of_le (BusTable.seq_le_lastSeq hr (AgentMsgRow.inSession_iff.mpr hsame))

lemma Enqueued.ordered {out : Outgoing} {row : AgentMsgRow} (h : Enqueued store store' out row)
    (hordered : store.bus.rows.Pairwise fun r r' => sameSession r r' → r.seq < r'.seq) :
    store'.bus.rows.Pairwise fun r r' => sameSession r r' → r.seq < r'.seq := by
  rw [h.rows]
  refine List.pairwise_append.mpr ⟨hordered, List.pairwise_singleton _ _, fun r hr r' hr' => ?_⟩
  rw [List.mem_singleton.mp hr']
  exact h.last r hr

lemma Enqueued.silent {out : Outgoing} {row : AgentMsgRow} (h : Enqueued store store' out row)
    (hkind : isReport out.kind = false) : Silent store store' := by
  have hrow : isReport row.kind = false := by
    have hkind' : row.kind = out.kind := congrArg Prod.fst h.view
    rw [hkind']
    exact hkind
  refine ⟨fun a ha => ⟨a, h.agents ▸ ha, rfl⟩, fun s hs => h.sessions ▸ hs, fun group session => ?_,
    fun r hr hk => ?_, h.ordered⟩
  · rw [reports_enqueue h.rows (Or.inr hrow)]
  · rw [h.rows] at hr
    rcases List.mem_append.mp hr with hr | hr
    · exact ⟨r, hr, hk, rfl, rfl⟩
    · rw [List.mem_singleton.mp hr, hrow] at hk
      cases hk

lemma SessionOk.frame (h : SessionOk fromStr store se)
    (hagents : ∀ a ∈ store.agents.rows, ∃ a' ∈ store'.agents.rows, a'.key = a.key)
    (hsessions : ∀ s ∈ store.sessions.rows, s ∈ store'.sessions.rows)
    (hsup : ∀ sup ∈ se.supervisor, SupervisorOk fromStr store'.bus sup) :
    SessionOk fromStr store' se where
  named := h.named
  registered hclaims := by
    obtain ⟨a, ha, hk⟩ := h.registered hclaims
    obtain ⟨a', ha', hk'⟩ := hagents a ha
    exact ⟨a', ha', hk'.trans hk⟩
  created hc := hsessions _ (h.created hc)
  started := h.started
  supervisor := hsup

lemma SessionOk.silent (h : SessionOk fromStr store se) (hs : Silent store store') :
    SessionOk fromStr store' se :=
  h.frame hs.agents hs.sessions fun sup hsup => (h.supervisor sup hsup).frame (hs.reports _ _)

lemma Invariant.silent (h : Invariant fromStr st) (hs : Silent st.store store') :
    Invariant fromStr { st with store := store' } where
  sessions se hse := (h.sessions se hse).silent hs
  distinct := h.distinct
  reported r hr hk := by
    obtain ⟨o, ho, hko, hgroup, hsession⟩ := hs.reported r hr hk
    obtain ⟨se, hse, hsup, hkey⟩ := h.reported o ho hko
    rw [hgroup, hsession] at hkey
    exact ⟨se, hse, hsup, hkey⟩
  ordered := hs.ordered h.ordered

lemma Invariant.set {k : ℕ} {se' : Session} (h : Invariant fromStr st) (hk : st.sessions[k]? = some se)
    (hs : Silent st.store store') (hok : SessionOk fromStr store' se') (hkey : se'.key = se.key)
    (hsup : se.supervisor.isSome = true → se'.supervisor.isSome = true)
    (hclaims : se'.claims = true → se.claims = true ∨
      ∀ other ∈ st.sessions, other.claims = true → other.key ≠ se.key) :
    Invariant fromStr ⟨store', st.sessions.set k se'⟩ := by
  have h' := h.silent hs
  refine ⟨forall_mem_set h'.sessions hok, fun key => ?_, fun r hr hkind => ?_, h'.ordered⟩
  · refine (h.distinct key).set hk fun hp => (hclaims hp.1).imp (fun hc => ⟨hc, hkey ▸ hp.2⟩) ?_
    intro hfresh other hother hq
    exact hfresh other hother hq.1 (hq.2.trans (hp.2.symm.trans hkey))
  · obtain ⟨o, ho, hs, hk'⟩ := h'.reported r hr hkind
    exact exists_mem_set hk ⟨o, ho, hs, hk'⟩ fun hp => ⟨hsup hp.1, hkey.trans hp.2⟩

lemma Spawned.fields {sp sp' : Spawn} (h : Spawned store sp now store' sp') :
    sp'.group = sp.group ∧ sp'.session = sp.session ∧ sp'.prime = sp.prime ∧
      sp'.sessionRow = sp.sessionRow := by
  cases h <;> exact ⟨rfl, rfl, rfl, rfl⟩

lemma Spawned.silent {sp sp' : Spawn} (h : Spawned store sp now store' sp')
    (hkept : ∀ r ∈ store.bus.rows, store'.bus.has r.key = true) : Silent store store' := by
  cases h with
  | move => exact .refl store
  | register => exact silent_register ..
  | create => exact silent_create ..
  | status => exact silent_setStatus ..
  | record _ henq =>
    obtain ⟨row, hrow⟩ := enqueued henq hkept
    exact hrow.silent rfl
  | consume => exact silent_mark ..

lemma launching_next {req : Orchestration.SpawnRequest} {pc : SpawnPc} {ok : Bool}
    (h : launching (pc.next req ok) = true) :
    launching pc = true ∨ (pc = .agentRegister ∧ ok = true) := by
  obtain ⟨mode, prompt⟩ := req
  cases pc <;> cases ok <;> cases mode <;> cases prompt <;> simp_all [launching, SpawnPc.next, SpawnPc.teardown]

lemma created_next {req : Orchestration.SpawnRequest} {pc : SpawnPc} {ok : Bool}
    (h : created (pc.next req ok) = true) :
    created pc = true ∨ (pc = .sessionCreate ∧ ok = true) := by
  obtain ⟨mode, prompt⟩ := req
  cases pc <;> cases ok <;> cases mode <;> cases prompt <;> simp_all [created, SpawnPc.next, SpawnPc.teardown]

lemma started_next (req : Orchestration.SpawnRequest) {pc : SpawnPc} (ok : Bool)
    (h : started pc = true ∨ pc = .spawnTask) : started (pc.next req ok) = true := by
  cases pc <;> simp_all [started, SpawnPc.next]

lemma Spawned.next {sp sp' : Spawn} (h : Spawned store sp now store' sp') :
    ∃ ok, sp'.pc = sp.pc.next sp.request ok := by
  cases h <;> exact ⟨_, rfl⟩

lemma stepped_claims {sp' : Spawn} (h : (se.stepped sp').claims = true) :
    se.claims = true ∨ launching sp'.pc = true := by
  rw [Session.claims, Bool.or_eq_true] at h ⊢
  rw [Session.stepped] at h
  by_cases hpc : se.spawn.pc = .spawnTask
  · exact Or.inl (Or.inr (by rw [hpc]; rfl))
  · simp only [hpc, if_false] at h
    exact h.imp_left Or.inl

lemma Spawned.launching {sp sp' : Spawn} (h : Spawned store sp now store' sp')
    (hpc : launching sp'.pc = true) : launching sp.pc = true ∨
      ((store.agents.agentRegister sp.agentRow).2 = true ∧
        store'.agents = (store.agents.agentRegister sp.agentRow).1) := by
  cases h with
  | register _ => exact (launching_next hpc).imp_right fun hnext => ⟨hnext.2, rfl⟩
  | create hcreate => exact Or.inl (by rw [hcreate]; rfl)
  | move hregister | status hregister =>
    exact (launching_next hpc).imp_right fun hnext => (hregister hnext.1).elim
  | record hrecord => exact Or.inl (by rw [hrecord]; rfl)
  | consume hconsume => exact Or.inl (by rw [hconsume]; rfl)

lemma Spawned.created {sp sp' : Spawn} (h : Spawned store sp now store' sp')
    (hpc : created sp'.pc = true) : created sp.pc = true ∨ sp.sessionRow ∈ store'.sessions.rows := by
  cases h with
  | register hregister =>
    refine (created_next hpc).imp_right fun hnext => ?_
    rw [hregister] at hnext
    cases hnext.1
  | create _ =>
    refine (created_next hpc).imp_right fun hnext => ?_
    refine Table.mem_insertOrIgnore.mpr (Or.inr ⟨rfl, ?_⟩)
    refine Table.has_eq_false.mp (Bool.eq_false_iff.mpr fun hhas => ?_)
    have hok : (store.sessions.insertOrIgnore sp.sessionRow).2 = true := hnext.2
    rw [Table.insertOrIgnore_of_has hhas] at hok
    cases hok
  | move _ hcreate | status _ hcreate =>
    exact (created_next hpc).imp_right fun hnext => (hcreate hnext.1).elim
  | record hrecord => exact Or.inl (by rw [hrecord]; rfl)
  | consume hconsume => exact Or.inl (by rw [hconsume]; rfl)

lemma supervisorOk_launched {bus : BusTable} (h : reports bus se.spawn.group se.spawn.session = []) :
    SupervisorOk fromStr bus se.launched where
  due := by
    change (reports bus se.spawn.group se.spawn.session).map view ++ [] = []
    rw [h]
    rfl
  turn _ hp := by cases hp
  awaiting hp := by cases hp
  stdout := rfl
  unfinished := rfl
  eof he := by cases he

lemma SessionOk.stepped {sp' : Spawn} (h : SessionOk fromStr store se)
    (hsp : Spawned store se.spawn now store' sp') (hs : Silent store store')
    (hnew : se.spawn.pc = .spawnTask → reports store'.bus se.spawn.group se.spawn.session = []) :
    SessionOk fromStr store' (se.stepped sp') := by
  obtain ⟨hgroup, hsession, hprime, hrow⟩ := hsp.fields
  have h' := h.silent hs
  have hsup : (se.stepped sp').supervisor =
      if se.spawn.pc = .spawnTask then some se.launched else se.supervisor := rfl
  refine ⟨fun sup hmem => ?_, fun hclaims => ?_, fun hc => ?_, fun hl => ?_, fun sup hmem => ?_⟩
  · change sup.group = sp'.group ∧ sup.session = sp'.session ∧ sup.prime = sp'.prime ∧ _
    rw [hgroup, hsession, hprime]
    rw [hsup] at hmem
    split at hmem
    · obtain rfl := Option.some.inj hmem
      exact ⟨rfl, rfl, rfl, rfl⟩
    · exact h.named sup hmem
  · have hkey : (se.stepped sp').key = se.key := Prod.ext hgroup hsession
    rw [hkey]
    rcases stepped_claims hclaims with hclaims | hl
    · exact h'.registered hclaims
    · rcases hsp.launching hl with hl | ⟨hok, hagents⟩
      · exact h'.registered (by rw [Session.claims, hl, Bool.or_true])
      · refine ⟨se.spawn.agentRow, ?_, rfl⟩
        rw [hagents, (AgentTable.agentRegister_ok hok).1]
        exact List.mem_append_right _ (List.mem_singleton_self _)
  · change sp'.sessionRow ∈ _
    rw [hrow]
    rw [hsup] at hc
    by_cases hpc : se.spawn.pc = .spawnTask
    · exact h'.created (Or.inr (by rw [hpc]; rfl))
    · rw [if_neg hpc] at hc
      rcases hc with hc | hc
      · exact h'.created (Or.inl hc)
      · exact (hsp.created hc).elim (fun hc => h'.created (Or.inr hc)) id
  · obtain ⟨ok, hnext⟩ := hsp.next
    change Sessions.started sp'.pc = true
    rw [hnext]
    rw [hsup] at hl
    split at hl
    · next hpc => exact started_next _ ok (Or.inr hpc)
    · exact started_next _ ok (Or.inl (h.started hl))
  · rw [hsup] at hmem
    split at hmem
    · next hpc =>
      obtain rfl := Option.some.inj hmem
      exact supervisorOk_launched (hnew hpc)
    · exact h'.supervisor sup hmem

lemma Invariant.unreported {k : ℕ} (h : Invariant fromStr st) (hk : st.sessions[k]? = some se)
    (hclaims : se.claims = true) (hnone : se.supervisor = none) :
    reports st.store.bus se.spawn.group se.spawn.session = [] := by
  refine List.filter_eq_nil_iff.mpr fun r hr hmem => ?_
  obtain ⟨hin, hkind⟩ := Bool.and_eq_true_iff.mp hmem
  obtain ⟨hgroup, hsession⟩ := AgentMsgRow.inSession_iff.mp hin
  obtain ⟨other, hother, hsome, hkey⟩ := h.reported r hr hkind
  obtain ⟨j, hj⟩ := List.mem_iff_getElem?.mp hother
  have hclaims' : other.claims = true := by rw [Session.claims, hsome, Bool.true_or]
  have hkey' : other.key = se.key := hkey.trans (Prod.ext hgroup hsession)
  obtain rfl := h.distinct se.key k j se other hk hj ⟨hclaims, rfl⟩ ⟨hclaims', hkey'⟩
  obtain rfl := Option.some.inj (hk.symm.trans hj)
  rw [hnone] at hsome
  cases hsome

lemma Invariant.spawnStep {k : ℕ} {sp' : Spawn} (h : Invariant fromStr st)
    (hk : st.sessions[k]? = some se) (hsp : Spawned st.store se.spawn now store' sp')
    (hkept : ∀ r ∈ st.store.bus.rows, store'.bus.has r.key = true) :
    Invariant fromStr ⟨store', st.sessions.set k (se.stepped sp')⟩ := by
  have hs := hsp.silent hkept
  have hok := h.sessions se (List.mem_of_getElem? hk)
  obtain ⟨hgroup, hsession, -, -⟩ := hsp.fields
  refine h.set hk hs (hok.stepped hsp hs fun hpc => ?_) (Prod.ext hgroup hsession) (fun hsome => ?_)
    fun hclaims => (stepped_claims hclaims).elim Or.inl fun hl => ?_
  · have hnone : se.supervisor = none := by
      cases hsup : se.supervisor with
      | none => rfl
      | some sup =>
        have hstarted := hok.started (by rw [hsup]; rfl)
        rw [hpc] at hstarted
        cases hstarted
    have hnil := h.unreported hk (by rw [Session.claims, hpc]; exact Bool.or_true _) hnone
    have hview := hs.reports se.spawn.group se.spawn.session
    rw [hnil] at hview
    exact List.map_eq_nil_iff.mp hview
  · change Option.isSome (if se.spawn.pc = .spawnTask then some se.launched else se.supervisor) = true
    split
    · rfl
    · exact hsome
  · refine (hsp.launching hl).imp (fun hl => by rw [Session.claims, hl, Bool.or_true]) ?_
    rintro ⟨hreg, -⟩ other hother hclaims hkey
    obtain ⟨a, ha, hak⟩ := (h.sessions other hother).registered hclaims
    exact (AgentTable.agentRegister_ok hreg).2 a ha (hak.trans hkey)

lemma Acts.fields (h : Acts fromStr store sup now store' sup') :
    sup'.group = sup.group ∧ sup'.session = sup.session ∧ sup'.prime = sup.prime ∧
      sup'.trace = sup.trace := by
  cases h with
  | @read read answer buf =>
    unfold Supervisor.handle
    split
    · split <;> exact ⟨rfl, rfl, rfl, rfl⟩
    · exact ⟨rfl, rfl, rfl, rfl⟩
    · exact ⟨rfl, rfl, rfl, rfl⟩
    · exact ⟨rfl, rfl, rfl, rfl⟩
    · exact ⟨rfl, rfl, rfl, rfl⟩
  | _ => exact ⟨rfl, rfl, rfl, rfl⟩

lemma SupervisorOk.reported {row : AgentMsgRow} {kind : AgentMsgKind} {text : String} {phase : Phase}
    (h : SupervisorOk fromStr store.bus sup) (hdue : sup.phase.due = [(kind, text)])
    (hkind : isReport kind = true)
    (hrow : Enqueued store store' ⟨sup.group, sup.session, sup.session, sup.prime, kind,
      textBytes text⟩ row) (hnone : phase.due = [])
    (hawaiting : phase = .setAwaiting → ∃ result isError,
      sup.events.getLast? = some (.turnComplete result isError))
    (hopen : sup.phase.closing = false) :
    SupervisorOk fromStr store'.bus { sup with phase } where
  due := by
    have hbefore := h.due
    rw [hdue] at hbefore
    have hkind' : row.kind = kind := congrArg Prod.fst hrow.view
    have hreports := reports_own hrow.rows (hkind'.symm ▸ hkind)
    rw [hrow.group, hrow.session] at hreports
    change (reports store'.bus sup.group sup.session).map view ++ phase.due.map sup.view = _
    rw [hreports, hnone, List.map_append, List.map_nil, List.append_nil, List.map_singleton, hrow.view]
    exact hbefore
  turn result hp := by
    obtain rfl : phase = .turnOutput result := hp
    cases hnone
  awaiting := hawaiting
  stdout := h.stdout
  unfinished := h.unfinished
  eof he := (h.reading hopen he).elim

lemma SupervisorOk.awaited {bus : BusTable} (h : SupervisorOk fromStr bus sup)
    (hphase : sup.phase = .setAwaiting) : SupervisorOk fromStr bus { sup with phase := .select } where
  due := by
    have hdue := h.due
    rw [hphase] at hdue
    exact hdue
  turn _ hp := by cases hp
  awaiting hp := by cases hp
  stdout := h.stdout
  unfinished := h.unfinished
  eof he := (h.reading (by rw [hphase]; rfl) he).elim

/-- What a step of a supervisor does to the reports. -/
inductive Wrote (store : Db) (sup : Supervisor) (store' : Db) : Prop
  | silent (hs : Silent store store')
  | report {kind : AgentMsgKind} {payload : Bytes} {row : AgentMsgRow} (hkind : isReport kind = true)
      (hrow : Enqueued store store' ⟨sup.group, sup.session, sup.session, sup.prime, kind, payload⟩ row)

lemma SupervisorOk.acts (h : SupervisorOk fromStr store.bus sup)
    (hacts : Acts fromStr store sup now store' sup')
    (hkept : ∀ r ∈ store.bus.rows, store'.bus.has r.key = true) :
    Wrote store sup store' ∧ SupervisorOk fromStr store'.bus sup' := by
  cases hacts with
  | move honward => exact ⟨.silent (.refl store), h.onward honward _ _⟩
  | @mark session seq phase honward =>
    have hs := silent_mark store sup.group session seq now
    exact ⟨.silent hs, (h.frame (hs.reports _ _)).onward honward _ _⟩
  | status honward => exact ⟨.silent (silent_setStatus ..), h.onward honward _ _⟩
  | await hphase => exact ⟨.silent (silent_setStatus ..), h.awaited hphase⟩
  | notice honward henq =>
    obtain ⟨row, hrow⟩ := enqueued henq hkept
    have hs := hrow.silent rfl
    exact ⟨.silent hs, (h.frame (hs.reports _ _)).onward honward _ _⟩
  | trace hphase henq =>
    obtain ⟨row, hrow⟩ := enqueued henq hkept
    refine ⟨.report rfl hrow, h.reported ?_ rfl hrow rfl Phase.noConfusion ?_⟩
    · rw [hphase]; rfl
    · rw [hphase]; rfl
  | output hphase henq =>
    obtain ⟨row, hrow⟩ := enqueued henq hkept
    refine ⟨.report rfl hrow, h.reported ?_ rfl hrow rfl (fun _ => ⟨_, h.turn _ hphase⟩) ?_⟩
    · rw [hphase]; rfl
    · rw [hphase]; rfl
  | read hphase hnext => exact ⟨.silent (.refl store), h.read hphase (nextEvent_next hnext)⟩

lemma SessionOk.supervised (h : SessionOk fromStr store se) (hsup : se.supervisor = some sup)
    (hacts : Acts fromStr store sup now store' sup')
    (hagents : ∀ a ∈ store.agents.rows, ∃ a' ∈ store'.agents.rows, a'.key = a.key)
    (hsessions : ∀ s ∈ store.sessions.rows, s ∈ store'.sessions.rows)
    (hok : SupervisorOk fromStr store'.bus sup') :
    SessionOk fromStr store' { se with supervisor := some sup' } where
  named sup₁ hmem := by
    obtain rfl := Option.some.inj hmem
    obtain ⟨hgroup, hsession, hprime, htrace⟩ := hacts.fields
    rw [hgroup, hsession, hprime, htrace]
    exact h.named sup hsup
  registered _ := by
    obtain ⟨a, ha, hk⟩ := h.registered (by rw [Session.claims, hsup]; rfl)
    obtain ⟨a', ha', hk'⟩ := hagents a ha
    exact ⟨a', ha', hk'.trans hk⟩
  created _ := hsessions _ (h.created (Or.inl (by rw [hsup]; rfl)))
  started _ := h.started (by rw [hsup]; rfl)
  supervisor sup₁ hmem := by
    obtain rfl := Option.some.inj hmem
    exact hok

lemma Invariant.others {k : ℕ} {kind : AgentMsgKind} {payload : Bytes} {row : AgentMsgRow}
    (h : Invariant fromStr st) (hk : st.sessions[k]? = some se) (hsup : se.supervisor = some sup)
    (hrow : Enqueued st.store store' ⟨sup.group, sup.session, sup.session, sup.prime, kind, payload⟩
      row) {j : ℕ} (hne : j ≠ k) {other : Session} (hj : st.sessions[j]? = some other) :
    SessionOk fromStr store' other := by
  have hok := h.sessions se (List.mem_of_getElem? hk)
  have hok' := h.sessions other (List.mem_of_getElem? hj)
  refine hok'.frame (fun a ha => ⟨a, hrow.agents ▸ ha, rfl⟩) (fun s hs => hrow.sessions ▸ hs)
    fun sup₁ hsup₁ => (hok'.supervisor sup₁ hsup₁).frame ?_
  rw [reports_enqueue hrow.rows (Or.inl ?_)]
  refine Bool.eq_false_iff.mpr fun hin => hne ?_
  obtain ⟨hgroup, hsession⟩ := AgentMsgRow.inSession_iff.mp hin
  obtain ⟨hgroup₀, hsession₀, -⟩ := hok.named sup hsup
  obtain ⟨hgroup₁, hsession₁, -⟩ := hok'.named sup₁ hsup₁
  have hkey : other.key = se.key := by
    refine Prod.ext ?_ ?_
    · exact hgroup₁.symm.trans (hgroup.symm.trans (hrow.group.trans hgroup₀))
    · exact hsession₁.symm.trans (hsession.symm.trans (hrow.session.trans hsession₀))
  have hsome : other.supervisor = some sup₁ := hsup₁
  exact h.distinct se.key j k other se hj hk ⟨by rw [Session.claims, hsome]; rfl, hkey⟩
    ⟨by rw [Session.claims, hsup]; rfl, rfl⟩

lemma Invariant.acts {k : ℕ} (h : Invariant fromStr st) (hk : st.sessions[k]? = some se)
    (hsup : se.supervisor = some sup) (hacts : Acts fromStr st.store sup now store' sup')
    (hkept : ∀ r ∈ st.store.bus.rows, store'.bus.has r.key = true) :
    Invariant fromStr ⟨store', st.sessions.set k { se with supervisor := some sup' }⟩ := by
  have hok := h.sessions se (List.mem_of_getElem? hk)
  have hclaims : se.claims = true := by
    rw [Session.claims, hsup]
    rfl
  obtain ⟨hwrote, hsupOk⟩ := (hok.supervisor sup hsup).acts hacts hkept
  cases hwrote with
  | silent hs =>
    exact h.set hk hs (hok.supervised hsup hacts hs.agents hs.sessions hsupOk) rfl (fun _ => rfl)
      fun _ => Or.inl hclaims
  | @report kind payload row hkind hrow =>
    refine ⟨fun x hx => ?_, fun key => ?_, fun r hr hkind => ?_, hrow.ordered h.ordered⟩
    · obtain ⟨j, hj⟩ := List.mem_iff_getElem?.mp hx
      rcases getElem?_set_cases hj with ⟨hne, hj⟩ | ⟨-, rfl⟩
      · exact h.others hk hsup hrow hne hj
      · exact hok.supervised hsup hacts (fun a ha => ⟨a, hrow.agents ▸ ha, rfl⟩)
          (fun s hs => hrow.sessions ▸ hs) hsupOk
    · exact (h.distinct key).set hk fun hp => Or.inl ⟨hclaims, hp.2⟩
    · rw [hrow.rows] at hr
      rcases List.mem_append.mp hr with hr | hr
      · exact exists_mem_set hk (h.reported r hr hkind) fun hp => ⟨rfl, hp.2⟩
      · rw [List.mem_singleton.mp hr]
        obtain ⟨hgroup, hsession, -⟩ := hok.named sup hsup
        refine ⟨_, mem_set_self hk, rfl, Prod.ext ?_ ?_⟩
        · exact hgroup.symm.trans hrow.group.symm
        · exact hsession.symm.trans hrow.session.symm

end WalkieTalkie.Sessions
