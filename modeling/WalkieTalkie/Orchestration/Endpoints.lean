import WalkieTalkie.Orchestration.Isolation
import WalkieTalkie.Orchestration.Registry

/-! Between whom a bus row runs. Each producer of rows picks the two ends in its own way, and all but
the broadcast of the dashboard take them from the session or keep to those that it was created with. -/

namespace WalkieTalkie.Orchestration.Endpoints

open Proto Store Lib Lib.Runs Clients
open Requests (Spawn Outgoing textBytes)
open Lifecycle (Await)

/-- The two agents are the ends of the session, in one order or the other. -/
def Ends (sessions : SessionTable) (group session a b : String) : Prop :=
  ∃ sess, sessions.sessionGet group session = some sess ∧
    (a = sess.primeAgent ∧ b = sess.childAgent ∨ a = sess.childAgent ∧ b = sess.primeAgent)

def RowEnds (sessions : SessionTable) (r : AgentMsgRow) : Prop :=
  Ends sessions r.groupName r.sessionName r.fromAgent r.toAgent

def OutEnds (sessions : SessionTable) (out : Outgoing) : Prop :=
  Ends sessions out.group out.session out.fromAgent out.toAgent

/-- Sessions stay, with both ends. -/
def Kept (sessions sessions' : SessionTable) : Prop :=
  ∀ group session sess, sessions.sessionGet group session = some sess →
    ∃ sess', sessions'.sessionGet group session = some sess' ∧
      sess'.primeAgent = sess.primeAgent ∧ sess'.childAgent = sess.childAgent

/-- Sessions stay, and a new bus row has the ends of an old one or of one among `new`. -/
structure Posts (new : Outgoing → Prop) (store store' : Requests.State) : Prop where
  rows : ∀ sessions, (∀ r ∈ store.bus.rows, RowEnds sessions r) →
    (∀ out, new out → OutEnds sessions out) → ∀ r ∈ store'.bus.rows, RowEnds sessions r
  sessions : Kept store.sessions store'.sessions

variable {sessions sessions' : SessionTable} {store store' : Requests.State}
  {new : Outgoing → Prop}

lemma Kept.refl (sessions : SessionTable) : Kept sessions sessions :=
  fun _ _ sess h => ⟨sess, h, rfl, rfl⟩

lemma Kept.ends (hk : Kept sessions sessions') {group session a b : String}
    (h : Ends sessions group session a b) : Ends sessions' group session a b := by
  obtain ⟨sess, hsess, hab⟩ := h
  obtain ⟨sess', hsess', hprime, hchild⟩ := hk group session sess hsess
  refine ⟨sess', hsess', ?_⟩
  rw [hprime, hchild]
  exact hab

lemma Ends.symm {group session a b : String} (h : Ends sessions group session a b) :
    Ends sessions group session b a := by
  obtain ⟨sess, hsess, ⟨ha, hb⟩ | ⟨ha, hb⟩⟩ := h
  · exact ⟨sess, hsess, Or.inr ⟨hb, ha⟩⟩
  · exact ⟨sess, hsess, Or.inl ⟨hb, ha⟩⟩

lemma kept_update (sessions : SessionTable) (p : SessionRow → Bool) (status : SessionStatus) :
    Kept sessions (sessions.update p (SessionRow.withStatus status)
      (SessionRow.key_withStatus status)) := by
  intro group session sess h
  obtain ⟨hmem, hkey⟩ := Table.find_eq_some.mp h
  refine ⟨if p sess then sess.withStatus status else sess, ?_, ?_⟩
  · refine Table.find_eq_some.mpr ⟨Table.mem_update.mpr ⟨sess, hmem, rfl⟩, ?_⟩
    split
    · exact hkey
    · exact hkey
  · split <;> exact ⟨rfl, rfl⟩

lemma kept_create (sessions : SessionTable) (row : SessionRow) :
    Kept sessions (sessions.sessionCreate row).1 := by
  intro group session sess h
  obtain ⟨hmem, hkey⟩ := Table.find_eq_some.mp h
  refine ⟨sess, Table.find_eq_some.mpr ⟨?_, hkey⟩, rfl, rfl⟩
  exact Table.mem_insertOrIgnore.mpr (Or.inl hmem)

lemma sessionGet_create {row : SessionRow} (h : (sessions.sessionCreate row).2 = true) :
    (sessions.sessionCreate row).1.sessionGet row.groupName row.name = some row := by
  refine Table.find_eq_some.mpr ⟨?_, rfl⟩
  cases hhas : sessions.has row.key with
  | true =>
    rw [SessionTable.sessionCreate, Table.insertOrIgnore_of_has hhas] at h
    cases h
  | false =>
    rw [SessionTable.sessionCreate, (Table.insertOrIgnore_of_not_has hhas).1]
    exact List.mem_append_right _ (List.mem_singleton_self _)

lemma Posts.of_bus (hb : store'.bus = store.bus) (hs : Kept store.sessions store'.sessions) :
    Posts new store store' := by
  refine ⟨fun sessions hrows _ r hr => ?_, hs⟩
  rw [hb] at hr
  exact hrows r hr

lemma Posts.refl (store : Requests.State) : Posts new store store :=
  .of_bus rfl (Kept.refl _)

lemma posts_mark {group session : String} {seq : ℕ} {now : UInt64} :
    Posts new store
      { store with bus := store.bus.agentMsgMarkConsumed group session seq now } := by
  refine ⟨fun sessions hrows _ r hr => ?_, Kept.refl _⟩
  obtain ⟨o, ho, rfl⟩ := List.mem_map.mp hr
  split
  · exact hrows o ho
  · exact hrows o ho

lemma posts_busEnqueue {out : Outgoing} {now : UInt64} {seq : ℕ} (hnew : new out)
    (h : store.busEnqueue out now = .ok (store', seq)) : Posts new store store' := by
  simp only [Requests.State.busEnqueue] at h
  split at h
  · next bus row henq =>
    obtain ⟨rfl, _⟩ := Prod.mk.inj (Except.ok.inj h)
    obtain ⟨hrow, hmem⟩ := BusTable.agentMsgEnqueue_ok henq
    refine ⟨fun sessions hrows hout r hr => ?_, Kept.refl _⟩
    rcases ((hmem r).mp hr).1 with hr | rfl
    · exact hrows r hr
    · rw [hrow]
      exact hout out hnew
  · cases h

lemma posts_markRow (group : String) (row : AgentMsgRow) (works : Bool) (now : UInt64) :
    Posts new store (markRow store group row works now) := by
  cases works with
  | true => exact posts_mark
  | false => exact .refl store

lemma posts_runRecv {O : Sorting} {r : Recv} (works : Bool) (now : UInt64) :
    Posts new store (runRecv O store r works now).1 := by
  rw [runRecv]
  split
  · exact .refl store
  · exact .refl store
  · exact .refl store
  · exact posts_markRow _ _ works now
  · split
    · exact .refl store
    · split <;> exact .refl store
  · exact posts_markRow _ _ works now

lemma posts_runKill (k : Kill) (works : Bool) : Posts new store (runKill store k works).1 := by
  rw [runKill]
  split
  · split
    · exact .refl store
    · split <;> exact .refl store
  · cases works with
    | true => exact .of_bus rfl (Kept.refl _)
    | false => exact .refl store
  · exact .refl store
  · exact .of_bus rfl (kept_update _ _ _)
  · exact .refl store

def prompt (sp : Spawn) : Outgoing :=
  ⟨sp.group, sp.session, sp.prime, sp.session, .turnInput, textBytes sp.initialPrompt⟩

lemma posts_runOp (sp : Spawn) (op : Op) : Posts new store (store.runOp sp op).1 := by
  cases op with
  | sessionCreate => exact .of_bus rfl (kept_create _ _)
  | sessionClose => exact .of_bus rfl (kept_update _ _ _)
  | _ => exact .of_bus rfl (Kept.refl _)

lemma posts_runSpawn (sp : Spawn) (outcome : Bool) (now : UInt64)
    (hnew : sp.pc = .recordPrompt → new (prompt sp)) :
    Posts new store (store.runSpawn sp outcome now).1 := by
  rcases Requests.effect_cases sp.pc with hpc | hpc | ⟨op, hpc, he⟩ | he
  · simp only [Requests.State.runSpawn, hpc]
    split
    · next h => exact posts_busEnqueue (hnew hpc) h
    · exact .refl store
  · simp only [Requests.State.runSpawn, hpc]
    exact posts_mark
  · rw [Requests.runSpawn_store outcome now hpc he]
    exact posts_runOp sp op
  · rw [Requests.runSpawn_other outcome now he]
    exact .refl store

/-- What a task may post next. -/
def Posting : Task → Outgoing → Prop
  | .spawn sp => fun out => sp.pc = .recordPrompt ∧ out = prompt sp
  | .post out => fun out' => out' = out
  | .broadcast _ outs _ => fun out => out ∈ outs
  | _ => fun _ => False

lemma posts_runTask {O : Sorting} (t : Task) (outcome : Bool) (now : UInt64) :
    Posts (Posting t) store (runTask O store outcome now t).store := by
  cases t with
  | registerPrime group tokenHash => exact .of_bus rfl (Kept.refl _)
  | spawn sp => exact posts_runSpawn sp outcome now fun hpc => ⟨hpc, rfl⟩
  | post out =>
    rcases (runTask_post O store outcome now out).2.2 with hsame | ⟨seq, h⟩
    · rw [hsame]
      exact .refl store
    · exact posts_busEnqueue rfl h
  | broadcast group outs sent =>
    cases outs with
    | nil => exact .refl store
    | cons out rest =>
      rcases (runTask_broadcast O store outcome now group out rest sent).2.2 with hsame | ⟨seq, h⟩
      · rw [hsame]
        exact .refl store
      · exact posts_busEnqueue (List.mem_cons_self ..) h
  | recv r => exact posts_runRecv outcome now
  | kill k => exact posts_runKill k outcome

lemma posts_supervisor {s : Supervisor} (kind : AgentMsgKind) (text : Bytes) (now : UInt64)
    (hnew : ∀ kind payload, new ⟨s.group, s.session, s.session, s.prime, kind, payload⟩) :
    Posts new store (s.post store kind text now) := by
  simp only [Supervisor.post]
  split
  · next h => exact posts_busEnqueue (hnew kind text) h
  · exact .refl store

lemma posts_runSupervisor {O : Sorting} (s : Supervisor) (text : Bytes) (now : UInt64) (a : Await)
    (hnew : ∀ kind payload, new ⟨s.group, s.session, s.session, s.prime, kind, payload⟩) :
    Posts new store (runSupervisor O store s text now a).1 := by
  cases a with
  | markConsumed left timer =>
    simp only [runSupervisor]
    split
    · exact .refl store
    · exact posts_mark
  | setRunning left timer => exact .of_bus rfl (Kept.refl _)
  | setAwaiting => exact .of_bus rfl (Kept.refl _)
  | setExited => exact .of_bus rfl (Kept.refl _)
  | trace => exact posts_supervisor _ text now hnew
  | turnOutput => exact posts_supervisor _ text now hnew
  | idleNotice => exact posts_supervisor _ text now hnew
  | exitNotice => exact posts_supervisor _ text now hnew
  | _ => exact .refl store

lemma posts_command (group : String) (r : GroupRequest) (now : UInt64) :
    Posts new store (command store group now r).1 := by
  cases r with
  | groupNew tokenHash =>
    simp only [command]
    split
    · exact .of_bus rfl (Kept.refl _)
    · exact .refl store
  | sendMessage session kind text =>
    simp only [command]
    split <;> exact .refl store
  | broadcastMessage kind text => exact .refl store

/-- The session of the spawn has been created by it. -/
def created : SpawnPc → Bool
  | .harnessSpawn => true
  | .setRunning => true
  | .recordPrompt => true
  | .consumePrompt => true
  | .spawnTask => true
  | .registerChild => true
  | _ => false

def Connects (sessions : SessionTable) : Task → Prop
  | .spawn sp => created sp.pc = true → Ends sessions sp.group sp.session sp.prime sp.session
  | .post out => OutEnds sessions out
  | .broadcast _ outs _ => ∀ out ∈ outs, OutEnds sessions out
  | _ => True

lemma Kept.connects (hk : Kept sessions sessions') {t : Task} (h : Connects sessions t) :
    Connects sessions' t := by
  cases t with
  | spawn sp => exact fun hpc => hk.ends (h hpc)
  | post out => exact hk.ends h
  | broadcast group outs sent => exact fun out hout => hk.ends (h out hout)
  | _ => trivial

lemma connects_posting {t : Task} {out : Outgoing} (h : Connects sessions t) (hp : Posting t out) :
    OutEnds sessions out := by
  cases t with
  | spawn sp =>
    obtain ⟨hpc, rfl⟩ := hp
    apply h
    rw [hpc]
    rfl
  | post out' =>
    obtain rfl : out = out' := hp
    exact h
  | broadcast group outs sent => exact h out hp
  | _ => exact hp.elim

lemma created_next {req : SpawnRequest} {pc : SpawnPc} {ok : Bool}
    (h : created (pc.next req ok) = true) : created pc = true ∨ pc = .sessionCreate ∧ ok = true := by
  cases pc <;> cases ok <;> simp only [SpawnPc.next, SpawnPc.teardown] at h <;>
    first
      | exact Or.inl rfl
      | exact Or.inr ⟨rfl, rfl⟩
      | cases h
      | (split at h <;> cases h)

lemma runSpawn_created {sp : Spawn} {outcome : Bool} {now : UInt64}
    (h : created (store.runSpawn sp outcome now).2.pc = true) : created sp.pc = true ∨
      Ends (store.runSpawn sp outcome now).1.sessions sp.group sp.session sp.prime sp.session := by
  rcases Requests.effect_cases sp.pc with hpc | hpc | ⟨op, hpc, he⟩ | he
  · exact Or.inl (by rw [hpc]; rfl)
  · exact Or.inl (by rw [hpc]; rfl)
  · rw [Requests.runSpawn_store outcome now hpc he] at h ⊢
    rcases created_next h with hcreated | ⟨hcreate, hok⟩
    · exact Or.inl hcreated
    · rw [hcreate] at he
      obtain rfl : Op.sessionCreate = op := by
        cases he
        rfl
      have hget := sessionGet_create hok
      exact Or.inr ⟨sp.sessionRow, hget, Or.inl ⟨rfl, rfl⟩⟩
  · rw [Requests.runSpawn_other outcome now he] at h
    rcases created_next h with hcreated | ⟨hcreate, _⟩
    · exact Or.inl hcreated
    · exact (he .sessionCreate (by rw [hcreate]; rfl)).elim

lemma spawnAnswer_connects {sp : Spawn} {t : Task} (h : (spawnAnswer sp).1 = some t)
    (hsp : created sp.pc = true → Ends sessions sp.group sp.session sp.prime sp.session) :
    Connects sessions t := by
  rw [spawnAnswer] at h
  split at h
  · cases h
  · cases h
  · obtain rfl := Option.some.inj h
    exact hsp

lemma killAnswer_connects {k : Kill} {t : Task} (h : (killAnswer k).1 = some t) :
    Connects sessions t := by
  rw [killAnswer] at h
  split at h
  · cases h
  · split at h <;> cases h
  · cases h
  · obtain rfl := Option.some.inj h
    trivial

lemma runTask_connects {O : Sorting} {t t' : Task} {outcome : Bool} {now : UInt64}
    (h : Connects store.sessions t) (ht : (runTask O store outcome now t).task = some t') :
    Connects (runTask O store outcome now t).store.sessions t' := by
  have hkept := (@posts_runTask store O t outcome now).sessions
  cases t with
  | registerPrime group tokenHash => cases ht
  | spawn sp =>
    obtain ⟨hprime, hgroup, hsession, _⟩ := Registry.runSpawn_fields store sp outcome now
    have hanswer : (spawnAnswer (store.runSpawn sp outcome now).2).1 = some t' := ht
    refine spawnAnswer_connects hanswer fun hcreated => ?_
    rw [hprime, hgroup, hsession]
    rcases runSpawn_created hcreated with hold | hends
    · exact hkept.ends (h hold)
    · exact hends
  | post out =>
    rw [(runTask_post O store outcome now out).1] at ht
    cases ht
  | broadcast group outs sent =>
    cases outs with
    | nil => cases ht
    | cons out rest =>
      have hrest : ∀ out' ∈ rest, OutEnds store.sessions out' :=
        fun out' hout => h out' (List.mem_cons_of_mem _ hout)
      obtain ⟨⟨n, hn⟩, _⟩ := runTask_broadcast O store outcome now group out rest sent
      obtain rfl := Option.some.inj (hn.symm.trans ht)
      exact fun out' hout => hkept.ends (hrest out' hout)
  | recv r =>
    obtain ⟨r', _, rfl⟩ := Option.map_eq_some_iff.mp ht
    trivial
  | kill k => exact killAnswer_connects ht

lemma created_spawnFails {req : SpawnRequest} {pc : SpawnPc}
    (h : created (Status.spawnFails req pc) = true) : created pc = true := by
  cases pc with
  | recordPrompt => rfl
  | consumePrompt => rfl
  | setExited code =>
    simp only [Status.spawnFails, SpawnPc.teardown] at h
    split at h <;> cases h
  | _ => cases h

lemma failTask_connects {t t' : Task} (h : Connects sessions t) (ht : (failTask t).1 = some t') :
    Connects sessions t' := by
  cases t with
  | registerPrime group tokenHash => cases ht
  | spawn sp => exact spawnAnswer_connects ht fun hcreated => h (created_spawnFails hcreated)
  | post out => cases ht
  | broadcast group outs sent =>
    obtain rfl := Option.some.inj ht
    exact fun out hout => h out (List.mem_of_mem_tail hout)
  | recv r =>
    simp only [failTask] at ht
    split at ht <;> cases ht
  | kill k => exact killAnswer_connects ht

lemma agentSend_ends {tokenHash payload : Bytes} {session : String} {kind : AgentMsgKind}
    {out : Outgoing} (h : store.agentSend tokenHash session kind payload = .ok out) :
    OutEnds store.sessions out := by
  obtain ⟨me, sess, _, hsess, ⟨hprime, rfl⟩ | ⟨_, hchild, rfl⟩⟩ :=
    Requests.State.agentSend_cases h
  · exact ⟨sess, hsess, Or.inl ⟨hprime, rfl⟩⟩
  · exact ⟨sess, hsess, Or.inr ⟨hchild, rfl⟩⟩

lemma accept_connects {tokenHash : Bytes} {now : UInt64} {r : AgentRequest} {t : Task}
    {events : List Event} (h : accept store tokenHash now r = .ok (some t, events)) :
    Connects store.sessions t := by
  cases r with
  | spawn group session mode initialPrompt coordinator childHash =>
    obtain ⟨sp, hsp, h⟩ := bind_ok h
    cases h
    intro hcreated
    obtain ⟨_, _, _, _, rfl⟩ := Requests.State.requestSpawn_cases hsp
    cases hcreated
  | agentSend session kind payload =>
    obtain ⟨out, hout, h⟩ := bind_ok h
    cases h
    exact agentSend_ends hout
  | agentRecv session sinceMs follow consume =>
    obtain ⟨me, _, h⟩ := bind_ok h
    cases h
    trivial
  | whoAmI =>
    obtain ⟨me, _, h⟩ := bind_ok h
    cases h
  | agentKill agent =>
    obtain ⟨me, _, h⟩ := bind_ok h
    split at h
    · cases h
    · cases h
      trivial
  | sessionClose session =>
    obtain ⟨me, _, h⟩ := bind_ok h
    split at h
    · cases h
    · cases h
      trivial

/-- The broadcast of the dashboard finds no active session whose prime is a spawned agent. -/
def OwnPrime (store : Requests.State) (group : String) : GroupRequest → Prop
  | .broadcastMessage _ _ => ∀ s ∈ store.sessions.sessionList group, s.status = .active →
      s.primeAgent = "prime"
  | _ => True

lemma command_connects {group : String} {r : GroupRequest} {now : UInt64} {t : Task}
    (hown : OwnPrime store group r) (h : (command store group now r).2.1 = some t) :
    Connects store.sessions t := by
  cases r with
  | groupNew tokenHash =>
    simp only [command] at h
    split at h
    · obtain rfl := Option.some.inj h
      trivial
    · cases h
  | sendMessage session kind text =>
    simp only [command, Requests.State.sendMessage] at h
    split at h
    · next out hout =>
      obtain rfl := Option.some.inj h
      split at hout
      · cases hout
      · next sess hsess =>
        obtain rfl := Except.ok.inj hout
        exact ⟨sess, hsess, Or.inl ⟨rfl, rfl⟩⟩
    · cases h
  | broadcastMessage kind text =>
    obtain rfl := Option.some.inj h
    intro out hout
    obtain ⟨s, hs, rfl⟩ := List.mem_map.mp hout
    obtain ⟨hlist, hactive⟩ := List.mem_filter.mp hs
    obtain ⟨hmem, rfl⟩ := SessionTable.mem_sessionList.mp hlist
    have hprime := hown s hlist (of_decide_eq_true hactive)
    exact ⟨s, Table.find_eq_some.mpr ⟨hmem, rfl⟩, Or.inl ⟨hprime.symm, rfl⟩⟩

structure Connected (st : Clients.State) : Prop where
  rows : ∀ r ∈ st.store.bus.rows, RowEnds st.store.sessions r
  tasks : ∀ id c t, st.conns id = some c → c.task = some t → Connects st.store.sessions t
  supervisors : ∀ id s, st.supervisors id = some s →
    Ends st.store.sessions s.group s.session s.session s.prime

def FromPrime (st : Clients.State) : Label → Prop
  | .command _ group r _ => OwnPrime st.store group r
  | _ => True

variable {O : Sorting} {st st' : Clients.State}

lemma receive_connects {rows : List AgentMsgRow} {c : Conn} {t' : Task}
    (ht : (c.receive rows).task = some t')
    (h : ∀ t, c.task = some t → Connects sessions t) : Connects sessions t' := by
  obtain ⟨opener, task, written⟩ := c
  cases task with
  | none => cases ht
  | some t =>
    have hconn := h t rfl
    cases t <;>
    · obtain rfl := Option.some.inj ht
      exact hconn

lemma Connected.put (h : Connected st) (hp : Posts new st.store store)
    (hnew : ∀ out, new out → OutEnds store.sessions out) : Connected (st.put store) := by
  refine ⟨?_, fun id c t hconn ht => ?_, fun id s hs => ?_⟩
  · exact hp.rows store.sessions (fun r hr => hp.sessions.ends (h.rows r hr)) hnew
  · obtain ⟨c', hconn', rfl⟩ := Option.map_eq_some_iff.mp hconn
    exact receive_connects ht fun t ht => hp.sessions.connects (h.tasks id c' t hconn' ht)
  · exact hp.sessions.ends (h.supervisors id s hs)

lemma Connected.setConn (h : Connected st) {id : ℕ} {c : Conn}
    (hc : ∀ t, c.task = some t → Connects st.store.sessions t) : Connected (st.setConn id c) := by
  refine ⟨h.rows, fun i c' t hconn ht => ?_, h.supervisors⟩
  by_cases hi : i = id
  · subst hi
    obtain rfl : c = c' := by simpa [State.setConn] using hconn
    exact hc t ht
  · exact h.tasks i c' t (by simpa [State.setConn, hi] using hconn) ht

lemma Connected.runChild (h : Connected st) {id : ℕ} {op : ChildOp}
    (hop : ∀ s, op = .start s → Ends st.store.sessions s.group s.session s.session s.prime) :
    Connected (st.runChild id op) := by
  cases op with
  | none => exact h
  | start s =>
    refine ⟨h.rows, h.tasks, fun i s' hs' => ?_⟩
    by_cases hi : i = id
    · subst hi
      obtain rfl : s = s' := by simpa [State.runChild] using hs'
      exact hop s rfl
    · exact h.supervisors i s' (by simpa [State.runChild, hi] using hs')
  | register group child => exact ⟨h.rows, h.tasks, h.supervisors⟩
  | kill group child =>
    rw [State.runChild]
    split
    · exact h
    · next j _ =>
      refine ⟨h.rows, h.tasks, fun i s' hs' => ?_⟩
      by_cases hij : i = j
      · subst hij
        obtain ⟨s, hs, rfl⟩ := Option.map_eq_some_iff.mp (by simpa using hs')
        exact h.supervisors i s hs
      · exact h.supervisors i s' (by simpa [hij] using hs')

lemma started_ends {t : Task} {outcome : Bool} {now : UInt64} {s : Supervisor}
    (h : Connects store.sessions t) (hs : (runTask O store outcome now t).child = .start s) :
    Ends (runTask O store outcome now t).store.sessions s.group s.session s.session s.prime := by
  have hkept := (@posts_runTask store O t outcome now).sessions
  cases t with
  | registerPrime group tokenHash => cases hs
  | spawn sp =>
    have hchild : spawnChild sp = .start s := hs
    rw [spawnChild] at hchild
    split at hchild
    · next heff =>
      obtain rfl := ChildOp.start.inj hchild
      have hcreated : created sp.pc = true := by
        cases hpc : sp.pc <;> rw [hpc] at heff <;> first | rfl | cases heff
      exact (hkept.ends (h hcreated)).symm
    · cases hchild
    · cases hchild
  | post out =>
    rw [(runTask_post O store outcome now out).2.1] at hs
    cases hs
  | broadcast group outs sent =>
    cases outs with
    | nil => cases hs
    | cons out rest =>
      rw [(runTask_broadcast O store outcome now group out rest sent).2.1] at hs
      cases hs
  | recv r => cases hs
  | kill k =>
    have hchild : killedChild k = .start s := hs
    rw [killedChild] at hchild
    split at hchild <;> cases hchild

lemma runSupervisor_ends {s s' : Supervisor} {text : Bytes} {now : UInt64} {a : Await}
    (h : (runSupervisor O store s text now a).2 = some s') :
    s'.group = s.group ∧ s'.session = s.session ∧ s'.prime = s.prime := by
  cases a with
  | markConsumed left timer =>
    simp only [runSupervisor] at h
    split at h <;>
    · obtain rfl := Option.some.inj h
      exact ⟨rfl, rfl, rfl⟩
  | forgetChild => cases h
  | _ =>
    obtain rfl := Option.some.inj h
    exact ⟨rfl, rfl, rfl⟩

lemma Connected.supervise (h : Connected st) {id : ℕ} {s : Supervisor} {text : Bytes} {now : UInt64}
    {a : Await} (hs : st.supervisors id = some s) :
    Connected { st.put (runSupervisor O st.store s text now a).1 with
      supervisors := Function.update st.supervisors id (runSupervisor O st.store s text now a).2
      children := forgets s (runSupervisor O st.store s text now a).2 st.children } := by
  have hends := h.supervisors id s hs
  have hposts := @posts_runSupervisor st.store
    (fun out => Ends st.store.sessions out.group out.session out.fromAgent out.toAgent) O s text now a
    fun kind payload => hends
  have hput := h.put hposts fun out hout => hposts.sessions.ends hout
  refine ⟨hput.rows, hput.tasks, fun i s' hs' => ?_⟩
  by_cases hi : i = id
  · subst hi
    have hsome : (runSupervisor O st.store s text now a).2 = some s' := by simpa using hs'
    obtain ⟨hgroup, hsession, hprime⟩ := runSupervisor_ends hsome
    rw [hgroup, hsession, hprime]
    exact hput.supervisors i s hs
  · have hsame : st.supervisors i = some s' := by simpa [hi] using hs'
    exact hput.supervisors i s' hsame

lemma Connected.step (h : Connected st) {l : Label} (hl : FromPrime st l)
    (hs : Clients.step O st l = some st') : Connected st' := by
  cases l with
  | request id tokenHash r now =>
    obtain ⟨_, rfl⟩ := stepRequest_iff.mp hs
    refine h.setConn fun t ht => ?_
    cases hok : accept st.store tokenHash now r with
    | error e =>
      rw [hok] at ht
      cases ht
    | ok x =>
      obtain ⟨task, events⟩ := x
      rw [hok] at ht
      obtain rfl : task = some t := ht
      exact accept_connects hok
  | command id group r now =>
    obtain ⟨_, rfl⟩ := stepCommand_iff.mp hs
    have hposts := @posts_command st.store (fun _ => False) group r now
    refine (h.put hposts fun _ hno => hno.elim).setConn fun t ht => ?_
    exact hposts.sessions.connects (command_connects hl ht)
  | run id opener outcome now =>
    obtain ⟨c, t, hid, ht, rfl, rfl⟩ := stepRun_iff.mp hs
    have hconn := h.tasks id c t hid ht
    have hposts := @posts_runTask st.store O t outcome now
    have hput := h.put hposts fun out hout => hposts.sessions.ends (connects_posting hconn hout)
    refine (hput.setConn fun t' ht' => ?_).runChild fun s hstart => ?_
    · exact runTask_connects hconn ht'
    · exact started_ends hconn hstart
  | fail id opener =>
    obtain ⟨c, t, hid, ht, rfl, rfl⟩ := stepFail_iff.mp hs
    exact h.setConn fun t' ht' => failTask_connects (h.tasks id c t hid ht) ht'
  | supervise id group a text now =>
    obtain ⟨s, hsup, rfl, rfl⟩ := stepSupervise_iff.mp hs
    exact h.supervise hsup
  | restart =>
    obtain rfl := Option.some.inj hs
    refine ⟨h.rows, fun id c t hconn ht => ?_, fun _ _ hno => ?_⟩
    · obtain ⟨c', _, rfl⟩ := Option.map_eq_some_iff.mp hconn
      cases ht
    · cases hno
  | reconcile =>
    rw [step_reconcile] at hs
    obtain rfl := Option.some.inj hs
    have hposts : Posts (fun _ => False) st.store { st.store with
        agents := (reconcileStaleAgents st.store.agents st.store.sessions).1
        sessions := (reconcileStaleAgents st.store.agents st.store.sessions).2 } :=
      .of_bus rfl (kept_update _ _ _)
    exact h.put hposts fun _ hno => hno.elim

lemma connected_initial : Connected initial where
  rows := fun _ hr => by cases hr
  tasks := fun _ _ _ hconn => by cases hconn
  supervisors := fun _ _ hs => by cases hs

theorem rows_connect_endpoints (O : Sorting) {ls : List Label}
    (hrun : Run (Guarded FromPrime (Fires (step O))) initial ls st) :
    ∀ r ∈ st.store.bus.rows, ∃ sess,
      st.store.sessions.sessionGet r.groupName r.sessionName = some sess ∧
      (r.fromAgent = sess.primeAgent ∧ r.toAgent = sess.childAgent ∨
        r.fromAgent = sess.childAgent ∧ r.toAgent = sess.primeAgent) := by
  have h : Connected st :=
    hrun.invariant (fun _ _ _ h hs => Connected.step h hs.1 hs.2) connected_initial
  exact h.rows

instance (st : Clients.State) (l : Label) : Decidable (FromPrime st l) :=
  match l with
  | .command _ group (.broadcastMessage _ _) _ =>
    inferInstanceAs (Decidable (∀ s ∈ st.store.sessions.sessionList group, s.status = .active →
      s.primeAgent = "prime"))
  | .command _ _ (.groupNew _) _ => isTrue trivial
  | .command _ _ (.sendMessage _ _ _) _ => isTrue trivial
  | .request _ _ _ _ => isTrue trivial
  | .run _ _ _ _ => isTrue trivial
  | .fail _ _ => isTrue trivial
  | .supervise _ _ _ _ _ => isTrue trivial
  | .restart => isTrue trivial
  | .reconcile => isTrue trivial

def spawnLabels (id : ℕ) (tokenHash childHash : Bytes) (session : String) (coordinator : Bool) :
    List Label :=
  .request id tokenHash (.spawn "team" session .new "go" coordinator childHash) 2 ::
    [true, true, false, true, true, true, true, true, true, true, true, true, true].map fun outcome =>
      .run id (.token tokenHash) outcome 3

def teamLabels : List Label :=
  newRun 0 [1] "team" 1 ++ spawnLabels 1 [1] [2] "lead" true

def broadcastLabels (id : ℕ) (posts : ℕ) : List Label :=
  .command id "team" (.broadcastMessage none "hi") 4 ::
    List.replicate (posts + 1) (.run id (.group "team") true 5)

def leadLabels : List Label := teamLabels ++ broadcastLabels 2 1

theorem rows_connect_endpoints_lead : ∃ st,
    Run (Guarded FromPrime (Fires (step .stable))) initial leadLabels st ∧
    (∃ r ∈ st.store.bus.rows, r.payload = textBytes "hi") ∧
    ∀ r ∈ st.store.bus.rows, ∃ sess,
      st.store.sessions.sessionGet r.groupName r.sessionName = some sess ∧
      (r.fromAgent = sess.primeAgent ∧ r.toAgent = sess.childAgent ∨
        r.fromAgent = sess.childAgent ∧ r.toAgent = sess.primeAgent) := by
  have hsome : (execute (restrict FromPrime (step .stable)) initial leadLabels).any (fun st =>
      st.store.bus.rows.any fun r => r.payload = textBytes "hi") := by
    decide +kernel
  obtain ⟨st, hst, hany⟩ := (Option.any_eq_true _ _).mp hsome
  obtain ⟨r, hr, hpayload⟩ := List.any_eq_true.mp hany
  have hrun := execute_restrict_run hst
  exact ⟨st, hrun, ⟨r, hr, of_decide_eq_true hpayload⟩, rows_connect_endpoints .stable hrun⟩

def workerLabels : List Label :=
  teamLabels ++ spawnLabels 2 [2] [3] "worker" false ++ broadcastLabels 3 2

theorem broadcast_to_worker_not_from_its_prime : ∃ st,
    Run (Fires (step .stable)) initial workerLabels st ∧ ∃ r ∈ st.store.bus.rows, ∃ sess,
      st.store.sessions.sessionGet r.groupName r.sessionName = some sess ∧
      sess.primeAgent = "lead" ∧ r.toAgent = sess.childAgent ∧ r.fromAgent = "prime" ∧
      ¬ (r.fromAgent = sess.primeAgent ∧ r.toAgent = sess.childAgent ∨
        r.fromAgent = sess.childAgent ∧ r.toAgent = sess.primeAgent) := by
  have hsome : (execute (step .stable) initial workerLabels).any (fun st =>
      st.store.bus.rows.any fun r =>
        (st.store.sessions.sessionGet r.groupName r.sessionName).any fun sess =>
          sess.primeAgent = "lead" ∧ r.toAgent = sess.childAgent ∧ r.fromAgent = "prime" ∧
          ¬ (r.fromAgent = sess.primeAgent ∧ r.toAgent = sess.childAgent ∨
            r.fromAgent = sess.childAgent ∧ r.toAgent = sess.primeAgent)) := by
    decide +kernel
  obtain ⟨st, hst, hany⟩ := (Option.any_eq_true _ _).mp hsome
  obtain ⟨r, hr, hrow⟩ := List.any_eq_true.mp hany
  obtain ⟨sess, hsess, hends⟩ := (Option.any_eq_true _ _).mp hrow
  exact ⟨st, execute_run hst, r, hr, sess, hsess, of_decide_eq_true hends⟩

end WalkieTalkie.Orchestration.Endpoints
