import WalkieTalkie.Orchestration.Respawn

/-! What the token of a worker can do. The environment of every harness carries one, so whatever the
model in the harness asks for is asked with it: it writes only to its own prime, reads only what is
addressed to it, and never changes who is there or obtains another token. -/

namespace WalkieTalkie.Orchestration.Workers

open Proto Store Lib Lib.Runs Clients
open Registry (IsPrime Extends)
open Requests (Spawn Writes)
open Respawn (extends_writes extends_step setConn_other setConn_self put_conn)

def RecvPhase.rows : RecvPhase → List AgentMsgRow
  | .write rows => rows
  | .mark row rest => row :: rest
  | .liveMark row => [row]
  | _ => []

/-- The row was sent to the agent, and is kept as it was sent. -/
def SentTo (store : Requests.State) (group agent : String) (row : AgentMsgRow) : Prop :=
  row.unconsumed ∈ store.log ∧ row.groupName = group ∧ row.toAgent = agent

structure RecvOk (store : Requests.State) (r : Recv) : Prop where
  rx : ∀ row ∈ r.rx, row ∈ store.log
  phase : ∀ row ∈ RecvPhase.rows r.phase, SentTo store r.group r.agent row

def Harmless (store : Requests.State) (me : AgentRow) : Event → Prop
  | .groupCreated _ _ => False
  | .spawned _ _ _ => False
  | .sent _ => False
  | .agentMsg session fromAgent kind payload tsMs => ∃ row ∈ store.log,
      row.groupName = me.groupName ∧ row.toAgent = me.name ∧
      msgEvent row = .agentMsg session fromAgent kind payload tsMs
  | .whoAmI group agent role session =>
      group = me.groupName ∧ agent = me.name ∧ role = .child ∧ session = some me.name
  | _ => True

/-- The other end of a worker's messages. -/
def ToPrime (store : Requests.State) (me : AgentRow) (out : Requests.Outgoing) : Prop :=
  out.group = me.groupName ∧ out.session = me.name ∧ out.fromAgent = me.name ∧
    ∃ sess ∈ store.sessions.rows, sess.groupName = me.groupName ∧ sess.name = me.name ∧
      out.toAgent = sess.primeAgent

def Own (store : Requests.State) (me : AgentRow) : Task → Prop
  | .post out => ToPrime store me out
  | .recv r => r.group = me.groupName ∧ r.agent = me.name
  | _ => False

structure Bound (store : Requests.State) (me : AgentRow) (c : Conn) : Prop where
  written : ∀ e ∈ c.written, Harmless store me e
  task : ∀ t, c.task = some t → Own store me t

/-- The connection of a token that no agent has was turned away. -/
structure TurnedAway (c : Conn) : Prop where
  task : c.task = none
  written : ∀ e ∈ c.written, ∃ err, e = .err err

structure ConnOk (store : Requests.State) (c : Conn) : Prop where
  spawn : ∀ sp, c.task = some (.spawn sp) → IsPrime store sp.group sp.prime
  recv : ∀ r, c.task = some (.recv r) → RecvOk store r
  worker : ∀ w, c.opener = .token w → ∀ me ∈ store.agents.rows, me.tokenHash = w →
    me.role = .child → Bound store me c
  stranger : ∀ w, c.opener = .token w → (∀ me ∈ store.agents.rows, me.tokenHash ≠ w) → TurnedAway c

structure StoreOk (store : Requests.State) : Prop where
  ledger : Ledger store.bus store.log
  sessions : ∀ s ∈ store.sessions.rows, s.childAgent = s.name ∧ IsPrime store s.groupName s.primeAgent

structure Ok (st : Clients.State) : Prop where
  store : StoreOk st.store
  conns : ∀ id c, st.conns id = some c → ConnOk st.store c

variable {O : Sorting} {store store' : Requests.State} {me : AgentRow} {c : Conn}

/-- How the store may change under a connection. -/
structure Grows (store store' : Requests.State) : Prop where
  rows : Extends store store'
  log : store.log <+: store'.log

lemma Grows.refl (store : Requests.State) : Grows store store :=
  ⟨.refl store, List.prefix_refl _⟩

lemma Grows.of_writes {new : AgentRow → Prop} (h : Writes new store store') : Grows store store' :=
  ⟨extends_writes h, h.evolves.log⟩

lemma ledger_writes {new : AgentRow → Prop} (hl : Ledger store.bus store.log)
    (h : Writes new store store') : Ledger store'.bus store'.log := by
  cases h with
  | enqueue h =>
    obtain ⟨bus, row, henq, rfl⟩ := Routing.busEnqueue_ok h
    exact hl.enqueue henq
  | mark group session seq now => exact hl.mark group session seq now
  | _ => exact hl

lemma SentTo.grows {group agent : String} {row : AgentMsgRow} (h : SentTo store group agent row)
    (hg : Grows store store') : SentTo store' group agent row :=
  ⟨hg.log.subset h.1, h.2⟩

lemma RecvOk.grows {r : Recv} (h : RecvOk store r) (hg : Grows store store') : RecvOk store' r :=
  ⟨fun row hr => hg.log.subset (h.rx row hr), fun row hr => (h.phase row hr).grows hg⟩

lemma Harmless.grows {me' : AgentRow} {e : Event} (h : Harmless store me e)
    (hg : Grows store store') (hgroup : me'.groupName = me.groupName) (hname : me'.name = me.name) :
    Harmless store' me' e := by
  cases e with
  | agentMsg session fromAgent kind payload tsMs =>
    obtain ⟨row, hrow, hrg, hto, he⟩ := h
    exact ⟨row, hg.log.subset hrow, hrg.trans hgroup.symm, hto.trans hname.symm, he⟩
  | whoAmI group agent role session =>
    rw [Harmless, hgroup, hname]
    exact h
  | _ => exact h

lemma Own.grows {me' : AgentRow} {t : Task} (h : Own store me t) (hg : Grows store store')
    (hgroup : me'.groupName = me.groupName) (hname : me'.name = me.name) : Own store' me' t := by
  cases t with
  | post out =>
    obtain ⟨hog, hos, hof, sess, hsess, hsg, hsn, hto⟩ := h
    obtain ⟨sess', hsess', hsame⟩ := hg.rows.sessions sess hsess
    obtain ⟨hg', hn', hp', _⟩ := Registry.session_withStatus_eq hsame
    rw [Own, ToPrime, hgroup, hname]
    exact ⟨hog, hos, hof, sess', hsess', hg'.trans hsg, hn'.trans hsn, hto.trans hp'.symm⟩
  | recv r =>
    rw [Own, hgroup, hname]
    exact h
  | _ => exact h

lemma Bound.grows {me' : AgentRow} (h : Bound store me c) (hg : Grows store store')
    (hgroup : me'.groupName = me.groupName) (hname : me'.name = me.name) : Bound store' me' c :=
  ⟨fun e he => (h.written e he).grows hg hgroup hname,
    fun t ht => (h.task t ht).grows hg hgroup hname⟩

lemma TurnedAway.bound (h : TurnedAway c) : Bound store me c := by
  refine ⟨fun e he => ?_, fun t ht => ?_⟩
  · obtain ⟨err, rfl⟩ := h.written e he
    trivial
  · rw [h.task] at ht
    cases ht

lemma eq_of_token {r r' : AgentRow} (hr : r ∈ store.agents.rows) (hr' : r' ∈ store.agents.rows)
    (h : r.tokenHash = r'.tokenHash) : r = r' :=
  List.inj_on_of_nodup_map store.agents.tokens hr hr' h

lemma ConnOk.grows (h : ConnOk store c) (hg : Grows store store') : ConnOk store' c := by
  refine ⟨fun sp hsp => hg.rows.isPrime (h.spawn sp hsp), fun r hr => (h.recv r hr).grows hg,
    fun w hw me hme htoken hrole => ?_, fun w hw hnone => h.stranger w hw fun me hme htoken => ?_⟩
  · by_cases hold : ∃ r ∈ store.agents.rows, r.tokenHash = w
    · obtain ⟨r, hr, hrw⟩ := hold
      obtain ⟨r', hr', hsame⟩ := hg.rows.agents r hr
      obtain ⟨hgroup, hname, htok, hrole'⟩ := Registry.withStatus_eq hsame
      obtain rfl := eq_of_token hme hr' (htoken.trans (hrw.symm.trans htok.symm))
      exact (h.worker w hw r hr hrw (hrole'.symm.trans hrole)).grows hg hgroup hname
    · exact (h.stranger w hw fun r hr hrw => hold ⟨r, hr, hrw⟩).bound
  · obtain ⟨me', hme', hsame⟩ := hg.rows.agents me hme
    obtain ⟨_, _, htok, _⟩ := Registry.withStatus_eq hsame
    exact hnone me' hme' (htok.trans htoken)

lemma ConnOk.receive {rows : List AgentMsgRow} (h : ConnOk store c)
    (hrows : ∀ row ∈ rows, row ∈ store.log) : ConnOk store (c.receive rows) := by
  obtain ⟨opener, task, written⟩ := c
  rcases Respawn.receive_cases rows ⟨opener, task, written⟩ with hsame | ⟨r, hr⟩
  · rw [hsame]
    exact h
  · obtain rfl : task = some (.recv r) := hr
    have hrecv := h.recv r rfl
    refine ⟨fun sp hsp => (by cases hsp), fun r' hr' => ?_, fun w hw me hme htoken hrole => ?_,
      fun w hw hnone => ?_⟩
    · cases hr'
      refine ⟨fun row hrow => ?_, hrecv.phase⟩
      rcases List.mem_append.mp hrow with hold | hnew
      · exact hrecv.rx row hold
      · exact hrows row hnew
    · have hbound := h.worker w hw me hme htoken hrole
      refine ⟨hbound.written, fun t ht => ?_⟩
      cases ht
      have hown := hbound.task (.recv r) rfl
      exact hown
    · cases (h.stranger w hw hnone).task

lemma msgEvent_harmless {row : AgentMsgRow} (h : SentTo store me.groupName me.name row) :
    Harmless store me (msgEvent row) :=
  ⟨row.unconsumed, h.1, h.2.1, h.2.2, rfl⟩

lemma nextOwn_mem {group : String} {rx rest : List AgentMsgRow} {row : AgentMsgRow}
    (h : nextOwn group rx = some (row, rest)) :
    row ∈ rx ∧ row.groupName = group ∧ ∀ r ∈ rest, r ∈ rx := by
  induction rx with
  | nil => cases h
  | cons first rx ih =>
    rw [nextOwn] at h
    split at h
    · next hg =>
      obtain ⟨rfl, rfl⟩ := Prod.mk.inj (Option.some.inj h)
      exact ⟨List.mem_cons_self .., hg, fun r hr => List.mem_cons_of_mem _ hr⟩
    · obtain ⟨hrow, hg, hrest⟩ := ih h
      exact ⟨List.mem_cons_of_mem _ hrow, hg, fun r hr => List.mem_cons_of_mem _ (hrest r hr)⟩

/-- What a step of a receiver does: it writes out rows that were sent to it. -/
structure Reads (store : Requests.State) (r : Recv) (now : UInt64) (store' : Requests.State)
    (r' : Option Recv) (events : List Event) : Prop where
  next : ∀ s, r' = some s → s.group = r.group ∧ s.agent = r.agent ∧ RecvOk store s
  events : ∀ e ∈ events, e = .agentBacklogEnd ∨ ∃ row, SentTo store r.group r.agent row ∧
    e = msgEvent row
  store : store' = store ∨ ∃ row, SentTo store r.group r.agent row ∧ store' =
    { store with bus := store.bus.agentMsgMarkConsumed row.groupName row.sessionName row.seq now }

lemma markRow_reads {r : Recv} {row : AgentMsgRow} (works : Bool) (now : UInt64)
    (h : SentTo store r.group r.agent row) :
    markRow store r.group row works now = store ∨ ∃ row', SentTo store r.group r.agent row' ∧
      markRow store r.group row works now = { store with
        bus := store.bus.agentMsgMarkConsumed row'.groupName row'.sessionName row'.seq now } := by
  rw [markRow]
  split
  · refine Or.inr ⟨row, h, ?_⟩
    rw [h.2.1]
  · exact Or.inl rfl

lemma backlog_sentTo {r : Recv} (hl : Ledger store.bus store.log) {row : AgentMsgRow}
    (hrow : row ∈ (O.backlog (store.bus.backlogRows r.group r.agent r.session r.since
      r.consume)).take 10000) : SentTo store r.group r.agent row := by
  have hmem := (O.backlog_ordered _).mem_iff.mp (List.mem_of_mem_take hrow)
  obtain ⟨hbus, hsel⟩ := List.mem_filter.mp hmem
  simp only [Bool.and_eq_true, decide_eq_true_eq] at hsel
  exact ⟨hl.logged row hbus, hsel.1.1.1.1, hsel.1.1.1.2⟩

lemma runRecv_reads {r : Recv} (hl : Ledger store.bus store.log) (h : RecvOk store r)
    (works : Bool) (now : UInt64) :
    Reads store r now (runRecv O store r works now).1 (runRecv O store r works now).2.1
      (runRecv O store r works now).2.2 := by
  have hnone : ∀ e ∈ ([] : List Event), e = .agentBacklogEnd ∨
      ∃ row, SentTo store r.group r.agent row ∧ e = msgEvent row := fun e he => by cases he
  rw [runRecv]
  split
  · refine ⟨fun s hs => ?_, hnone, Or.inl rfl⟩
    obtain rfl := Option.some.inj hs
    exact ⟨rfl, rfl, h.rx, fun row hrow => backlog_sentTo hl hrow⟩
  · next hphase =>
    refine ⟨fun s hs => ?_, fun e he => Or.inl (List.mem_singleton.mp he), Or.inl rfl⟩
    split at hs
    · obtain rfl := Option.some.inj hs
      exact ⟨rfl, rfl, h.rx, fun row hrow => (by cases hrow)⟩
    · cases hs
  · next row rest hphase =>
    have hrows := h.phase
    rw [hphase] at hrows
    refine ⟨fun s hs => ?_, fun e he => Or.inr ⟨row, hrows row (List.mem_cons_self ..),
      List.mem_singleton.mp he⟩, Or.inl rfl⟩
    obtain rfl := Option.some.inj hs
    refine ⟨rfl, rfl, h.rx, fun row' hrow' => hrows row' ?_⟩
    dsimp only at hrow'
    split at hrow'
    · exact hrow'
    · exact List.mem_cons_of_mem _ hrow'
  · next row rest hphase =>
    have hrows := h.phase
    rw [hphase] at hrows
    refine ⟨fun s hs => ?_, hnone, markRow_reads works now (hrows row (List.mem_cons_self ..))⟩
    obtain rfl := Option.some.inj hs
    exact ⟨rfl, rfl, h.rx, fun row' hrow' => hrows row' (List.mem_cons_of_mem _ hrow')⟩
  · next hphase =>
    split
    · refine ⟨fun s hs => ?_, hnone, Or.inl rfl⟩
      obtain rfl := Option.some.inj hs
      exact ⟨rfl, rfl, h⟩
    · next row rest hnext =>
      obtain ⟨hmem, hgroup, hrest⟩ := nextOwn_mem hnext
      have hrx : ∀ row' ∈ rest, row' ∈ store.log := fun row' hr => h.rx row' (hrest row' hr)
      split
      · next hwants =>
        have hto : row.toAgent = r.agent := by
          rw [Recv.wants, Bool.and_eq_true, decide_eq_true_eq] at hwants
          exact hwants.1
        have hfresh := unconsumed_eq (hl.fresh row (h.rx row hmem))
        have hsent : SentTo store r.group r.agent row := by
          refine ⟨?_, hgroup, hto⟩
          rw [hfresh]
          exact h.rx row hmem
        refine ⟨fun s hs => ?_, fun e he => Or.inr ⟨row, hsent, List.mem_singleton.mp he⟩,
          Or.inl rfl⟩
        obtain rfl := Option.some.inj hs
        refine ⟨rfl, rfl, hrx, fun row' hrow' => ?_⟩
        dsimp only at hrow'
        split at hrow'
        · rw [List.mem_singleton.mp hrow']
          exact hsent
        · cases hrow'
      · refine ⟨fun s hs => ?_, hnone, Or.inl rfl⟩
        obtain rfl := Option.some.inj hs
        refine ⟨rfl, rfl, hrx, fun row' hrow' => ?_⟩
        rw [hphase] at hrow'
        cases hrow'
  · next row hphase =>
    have hrows := h.phase
    rw [hphase] at hrows
    refine ⟨fun s hs => ?_, hnone, markRow_reads works now (hrows row (List.mem_singleton_self _))⟩
    obtain rfl := Option.some.inj hs
    exact ⟨rfl, rfl, h.rx, fun row' hrow' => by cases hrow'⟩

section

variable {t : Task} {outcome : Bool} {now : UInt64}

lemma grows_runTask : Grows store (runTask O store outcome now t).store :=
  .of_writes (writes_runTask t outcome now)

lemma markRow_sessions (group : String) (row : AgentMsgRow) (works : Bool) (now : UInt64) :
    (markRow store group row works now).sessions = store.sessions := by
  rw [markRow]
  split <;> rfl

lemma runRecv_sessions (r : Recv) (works : Bool) (now : UInt64) :
    (runRecv O store r works now).1.sessions = store.sessions := by
  rw [runRecv]
  split
  · rfl
  · rfl
  · rfl
  · exact markRow_sessions ..
  · split
    · rfl
    · split <;> rfl
  · exact markRow_sessions ..

lemma sessions_runTask {s : SessionRow}
    (hs : s ∈ (runTask O store outcome now t).store.sessions.rows) :
    (∃ o ∈ store.sessions.rows, s.withStatus .closed = o.withStatus .closed) ∨
      ∃ sp, t = .spawn sp ∧ s = sp.sessionRow := by
  cases t with
  | registerPrime group tokenHash => exact Or.inl ⟨s, hs, rfl⟩
  | spawn sp =>
    refine ((Registry.runSpawn_ran store sp outcome now).sessions hs).imp_right fun h => ?_
    exact ⟨sp, rfl, h.2⟩
  | post out =>
    rcases (runTask_post O store outcome now out).2.2 with hsame | ⟨seq, henq⟩
    · rw [hsame] at hs
      exact Or.inl ⟨s, hs, rfl⟩
    · obtain ⟨bus, row, _, heq⟩ := Routing.busEnqueue_ok henq
      rw [heq] at hs
      exact Or.inl ⟨s, hs, rfl⟩
  | broadcast group outs sent =>
    cases outs with
    | nil => exact Or.inl ⟨s, hs, rfl⟩
    | cons out rest =>
      rcases (runTask_broadcast O store outcome now group out rest sent).2.2 with hsame | ⟨seq, henq⟩
      · rw [hsame] at hs
        exact Or.inl ⟨s, hs, rfl⟩
      · obtain ⟨bus, row, _, heq⟩ := Routing.busEnqueue_ok henq
        rw [heq] at hs
        exact Or.inl ⟨s, hs, rfl⟩
  | recv r =>
    refine Or.inl ⟨s, ?_, rfl⟩
    rw [← runRecv_sessions r outcome now]
    exact hs
  | kill k =>
    have hs' : s ∈ (runKill store k outcome).1.sessions.rows := hs
    rw [runKill] at hs'
    split at hs'
    · split at hs'
      · exact Or.inl ⟨s, hs', rfl⟩
      · split at hs' <;> exact Or.inl ⟨s, hs', rfl⟩
    · dsimp only at hs'
      split at hs' <;> exact Or.inl ⟨s, hs', rfl⟩
    · exact Or.inl ⟨s, hs', rfl⟩
    · exact Or.inl (Registry.mem_setStatus hs')
    · exact Or.inl ⟨s, hs', rfl⟩

lemma storeOk_grows (h : StoreOk store) (hl : Ledger store'.bus store'.log) (hg : Grows store store')
    (hs : ∀ s ∈ store'.sessions.rows,
      (∃ o ∈ store.sessions.rows, s.withStatus .closed = o.withStatus .closed) ∨
        s.childAgent = s.name ∧ IsPrime store s.groupName s.primeAgent) : StoreOk store' := by
  refine ⟨hl, fun s hmem => ?_⟩
  rcases hs s hmem with ⟨o, ho, hsame⟩ | ⟨hchild, hprime⟩
  · obtain ⟨hchild, hprime⟩ := h.sessions o ho
    obtain ⟨hgroup, hname, hp, hc⟩ := Registry.session_withStatus_eq hsame
    rw [hgroup, hname, hp, hc]
    exact ⟨hchild, hg.rows.isPrime hprime⟩
  · exact ⟨hchild, hg.rows.isPrime hprime⟩

lemma storeOk_run (h : StoreOk store) (hc : ConnOk store c) (ht : c.task = some t) :
    StoreOk (runTask O store outcome now t).store := by
  refine storeOk_grows h (ledger_writes h.ledger (writes_runTask t outcome now)) grows_runTask
    fun s hs => ?_
  refine (sessions_runTask hs).imp_right ?_
  rintro ⟨sp, rfl, rfl⟩
  exact ⟨rfl, hc.spawn sp ht⟩

/-- A connection goes on with another task, and what is new on it suits its token. -/
lemma ConnOk.answered {t' : Option Task} {events : List Event} (h : ConnOk store c)
    (ht : c.task = some t) (hspawn : ∀ sp, t' = some (.spawn sp) → IsPrime store sp.group sp.prime)
    (hrecv : ∀ r, t' = some (.recv r) → RecvOk store r)
    (hworker : ∀ me, Own store me t → (∀ e ∈ events, Harmless store me e) ∧
      ∀ u, t' = some u → Own store me u) : ConnOk store (answered c t' events) := by
  refine ⟨hspawn, hrecv, fun w hw me hme htoken hrole => ?_, fun w hw hnone => ?_⟩
  · have hbound := h.worker w hw me hme htoken hrole
    obtain ⟨hevents, hown⟩ := hworker me (hbound.task t ht)
    refine ⟨fun e he => ?_, hown⟩
    rcases List.mem_append.mp he with hold | hnew
    · exact hbound.written e hold
    · exact hevents e hnew
  · have haway := (h.stranger w hw hnone).task
    rw [ht] at haway
    cases haway

lemma spawnAnswer_task {sp : Spawn} {u : Task} (h : (spawnAnswer sp).1 = some u) : u = .spawn sp := by
  rw [spawnAnswer] at h
  split at h
  · cases h
  · cases h
  · exact (Option.some.inj h).symm

lemma harmless_post {out : Requests.Outgoing} (me : AgentRow) :
    ∀ e ∈ (runTask O store outcome now (.post out)).events, Harmless store me e := by
  intro e he
  rw [runTask] at he
  split at he
  · rw [List.mem_singleton.mp he]
    trivial
  · rw [List.mem_singleton.mp he]
    trivial

lemma connOk_run (hs : StoreOk store) (h : ConnOk store c) (ht : c.task = some t) :
    ConnOk (runTask O store outcome now t).store (answered c
      (runTask O store outcome now t).task (runTask O store outcome now t).events) := by
  have hg : Grows store (runTask O store outcome now t).store := grows_runTask
  have hc := h.grows hg
  cases t with
  | registerPrime group tokenHash =>
    exact hc.answered ht (fun _ h => (by cases h)) (fun _ h => (by cases h)) fun _ h => h.elim
  | spawn sp =>
    have htask : ∀ {u}, (runTask O store outcome now (.spawn sp)).task = some u →
        u = .spawn (store.runSpawn sp outcome now).2 := fun hu => spawnAnswer_task hu
    refine hc.answered ht (fun sp' hsp' => ?_) (fun r hr => ?_) fun _ h => h.elim
    · obtain ⟨hprime, hgroup, _⟩ := Registry.runSpawn_fields store sp outcome now
      obtain rfl := Task.spawn.inj (htask hsp')
      rw [hprime, hgroup]
      exact hc.spawn sp ht
    · cases htask hr
  | post out =>
    have hnone := (runTask_post O store outcome now out).1
    rw [hnone]
    refine hc.answered ht (fun _ h => (by cases h)) (fun _ h => (by cases h)) fun me _ => ?_
    exact ⟨fun e he => (harmless_post me e he).grows hg rfl rfl, fun _ h => (by cases h)⟩
  | broadcast group outs sent =>
    cases outs with
    | nil => exact hc.answered ht (fun _ h => (by cases h)) (fun _ h => (by cases h)) fun _ h => h.elim
    | cons out rest =>
      obtain ⟨⟨n, hn⟩, _⟩ := runTask_broadcast O store outcome now group out rest sent
      rw [hn]
      exact hc.answered ht (fun _ h => (by cases h)) (fun _ h => (by cases h)) fun _ h => h.elim
  | recv r =>
    have hreads := runRecv_reads (O := O) hs.ledger (h.recv r ht) outcome now
    have htask : ∀ {u}, (runTask O store outcome now (.recv r)).task = some u →
        ∃ s, (runRecv O store r outcome now).2.1 = some s ∧ u = .recv s := by
      intro u hu
      obtain ⟨s, hs, rfl⟩ := Option.map_eq_some_iff.mp hu
      exact ⟨s, hs, rfl⟩
    refine hc.answered ht (fun sp hsp => ?_) (fun r' hr' => ?_) fun me hown => ⟨fun e he => ?_, ?_⟩
    · obtain ⟨s, _, hs⟩ := htask hsp
      cases hs
    · obtain ⟨s, hs, hsr⟩ := htask hr'
      cases hsr
      exact (hreads.next _ hs).2.2.grows hg
    · obtain ⟨hgroup, hname⟩ := hown
      rcases hreads.events e he with rfl | ⟨row, hrow, rfl⟩
      · trivial
      · rw [hgroup, hname] at hrow
        exact (msgEvent_harmless hrow).grows hg rfl rfl
    · intro u hu
      obtain ⟨s, hs, rfl⟩ := htask hu
      obtain ⟨hgroup, hname, _⟩ := hreads.next s hs
      exact ⟨hgroup.trans hown.1, hname.trans hown.2⟩
  | kill k =>
    have htask : ∀ {u}, (runTask O store outcome now (.kill k)).task = some u →
        ∃ k', u = .kill k' := fun hu => ⟨_, Respawn.killAnswer_task hu⟩
    refine hc.answered ht (fun sp hsp => ?_) (fun r hr => ?_) fun _ h => h.elim
    · obtain ⟨k', hk'⟩ := htask hsp
      cases hk'
    · obtain ⟨k', hk'⟩ := htask hr
      cases hk'

lemma connOk_fail (h : ConnOk store c) (ht : c.task = some t) :
    ConnOk store (answered c (failTask t).1 (failTask t).2) := by
  cases t with
  | registerPrime group tokenHash =>
    exact h.answered ht (fun _ h => (by cases h)) (fun _ h => (by cases h)) fun _ h => h.elim
  | spawn sp =>
    refine h.answered ht (fun sp' hsp' => ?_) (fun r hr => ?_) fun _ h => h.elim
    · obtain rfl := Task.spawn.inj (spawnAnswer_task hsp')
      exact h.spawn sp ht
    · cases spawnAnswer_task hr
  | post out =>
    refine h.answered ht (fun _ h => (by cases h)) (fun _ h => (by cases h)) fun me _ => ?_
    refine ⟨fun e he => ?_, fun _ h => (by cases h)⟩
    rw [List.mem_singleton.mp he]
    trivial
  | broadcast group outs sent =>
    exact h.answered ht (fun _ h => (by cases h)) (fun _ h => (by cases h)) fun _ h => h.elim
  | recv r =>
    rw [failTask]
    split
    · refine h.answered ht (fun _ h => (by cases h)) (fun _ h => (by cases h)) fun me _ => ?_
      refine ⟨fun e he => ?_, fun _ h => (by cases h)⟩
      rw [List.mem_singleton.mp he]
      trivial
    · refine h.answered ht (fun _ h => (by cases h)) (fun _ h => (by cases h)) fun me _ => ?_
      exact ⟨fun e he => (by cases he), fun _ h => (by cases h)⟩
  | kill k =>
    refine h.answered ht (fun sp hsp => ?_) (fun r hr => ?_) fun _ h => h.elim
    · cases Respawn.killAnswer_task hsp
    · cases Respawn.killAnswer_task hr

end

lemma agentByToken_token {tokenHash : Bytes} (h : store.agents.agentByToken tokenHash = some me) :
    me ∈ store.agents.rows ∧ me.tokenHash = tokenHash := by
  have htoken := List.find?_some h
  exact ⟨AgentTable.agentByToken_some h, by simpa using htoken⟩

lemma accept_ok {tokenHash : Bytes} {now : UInt64} {r : AgentRequest} {t : Option Task}
    {events : List Event} (hs : StoreOk store) (h : accept store tokenHash now r = .ok (t, events)) :
    ∃ me, store.agents.agentByToken tokenHash = some me ∧
      (∀ sp, t = some (.spawn sp) → IsPrime store sp.group sp.prime) ∧
      (∀ s, t = some (.recv s) → RecvOk store s) ∧
      (me.role = .child → (∀ e ∈ events, Harmless store me e) ∧ ∀ u, t = some u → Own store me u) := by
  cases r with
  | spawn group session mode initialPrompt coordinator childHash =>
    obtain ⟨sp, hsp, h⟩ := bind_ok h
    obtain ⟨me, hme, hgroup, hrole, rfl⟩ := Requests.State.requestSpawn_cases hsp
    cases h
    refine ⟨me, hme, fun sp' hsp' => ?_, fun s hs => (by cases hs), fun hchild => ?_⟩
    · cases hsp'
      exact ⟨me, (agentByToken_token hme).1, hgroup, rfl, hrole⟩
    · rw [hrole] at hchild
      cases hchild
  | agentSend session kind payload =>
    obtain ⟨out, hout, h⟩ := bind_ok h
    obtain ⟨me, sess, hme, hsess, hends⟩ := Requests.State.agentSend_cases hout
    cases h
    refine ⟨me, hme, fun _ h => (by cases h), fun _ h => (by cases h), fun hchild => ?_⟩
    refine ⟨fun e he => (by cases he), fun u hu => ?_⟩
    obtain rfl := Option.some.inj hu
    obtain ⟨hmem, hkey⟩ := Table.find_eq_some.mp hsess
    obtain ⟨hgroup, hname⟩ := Prod.mk.inj hkey
    obtain ⟨hchildName, r, hr, hrg, hrn, hrole⟩ := hs.sessions sess hmem
    rcases hends with ⟨hprime, rfl⟩ | ⟨_, hown, rfl⟩
    · have hsame : r = me := by
        refine List.inj_on_of_nodup_map store.agents.nodup hr (agentByToken_token hme).1 ?_
        rw [AgentRow.key, AgentRow.key, hrg, hrn, hgroup, hprime]
      rw [hsame, hchild] at hrole
      cases hrole
    · have hsession : session = me.name := hname.symm.trans (hchildName.symm.trans hown.symm)
      exact ⟨rfl, hsession, rfl, sess, hmem, hgroup, hname.trans hsession, rfl⟩
  | agentRecv session sinceMs follow consume =>
    obtain ⟨me, hme, h⟩ := bind_ok h
    cases h
    refine ⟨me, resolveAgent_ok hme, fun _ h => (by cases h), fun s hs => ?_, fun _ => ?_⟩
    · cases hs
      exact ⟨fun row hrow => (by cases hrow), fun row hrow => (by cases hrow)⟩
    · refine ⟨fun e he => (by cases he), fun u hu => ?_⟩
      obtain rfl := Option.some.inj hu
      exact ⟨rfl, rfl⟩
  | whoAmI =>
    obtain ⟨me, hme, h⟩ := bind_ok h
    cases h
    refine ⟨me, resolveAgent_ok hme, fun _ h => (by cases h), fun _ h => (by cases h), fun hchild => ?_⟩
    refine ⟨fun e he => ?_, fun _ h => (by cases h)⟩
    rw [List.mem_singleton.mp he]
    exact ⟨rfl, rfl, hchild, if_pos hchild⟩
  | agentKill agent =>
    obtain ⟨me, hme, h⟩ := bind_ok h
    split at h
    · cases h
    · next hprime =>
      cases h
      refine ⟨me, resolveAgent_ok hme, fun _ h => (by cases h), fun _ h => (by cases h), fun hchild => ?_⟩
      exact (hprime (by rw [hchild]; exact Role.noConfusion)).elim
  | sessionClose session =>
    obtain ⟨me, hme, h⟩ := bind_ok h
    split at h
    · cases h
    · next hprime =>
      cases h
      refine ⟨me, resolveAgent_ok hme, fun _ h => (by cases h), fun _ h => (by cases h), fun hchild => ?_⟩
      exact (hprime (by rw [hchild]; exact Role.noConfusion)).elim

lemma connOk_accept {tokenHash : Bytes} {now : UInt64} {r : AgentRequest} (hs : StoreOk store) :
    ConnOk store (accepted (accept store tokenHash now r) (.token tokenHash)) := by
  cases h : accept store tokenHash now r with
  | error e =>
    have haway : TurnedAway (accepted (.error e) (.token tokenHash)) :=
      ⟨rfl, fun e' he' => ⟨e, List.mem_singleton.mp he'⟩⟩
    exact ⟨fun _ h => (by cases h), fun _ h => (by cases h), fun _ _ _ _ _ _ => haway.bound,
      fun _ _ _ => haway⟩
  | ok answer =>
    obtain ⟨t, events⟩ := answer
    obtain ⟨me, hme, hspawn, hrecv, hchild⟩ := accept_ok hs h
    obtain ⟨hmem, htoken⟩ := agentByToken_token hme
    refine ⟨hspawn, hrecv, fun w hw me' hme' htoken' hrole => ?_, fun w hw hnone => ?_⟩
    · cases hw
      obtain rfl := eq_of_token hmem hme' (htoken.trans htoken'.symm)
      exact ⟨(hchild hrole).1, (hchild hrole).2⟩
    · cases hw
      exact (hnone me hmem htoken).elim

section

variable {st st' : Clients.State}

lemma newRows_mem {row : AgentMsgRow} (h : row ∈ newRows store store') : row ∈ store'.log :=
  List.mem_of_mem_drop h

lemma put_ok (h : Ok st) (hs : StoreOk store) (hg : Grows st.store store) : Ok (st.put store) := by
  refine ⟨hs, fun id c hc => ?_⟩
  obtain ⟨d, hd, rfl⟩ := Option.map_eq_some_iff.mp hc
  exact ((h.conns id d hd).grows hg).receive fun row hrow => newRows_mem hrow

lemma setConn_ok (h : Ok st) {id : ℕ} (hc : ConnOk st.store c) : Ok (st.setConn id c) := by
  refine ⟨h.store, fun i d hd => ?_⟩
  by_cases hi : i = id
  · subst hi
    rw [setConn_self] at hd
    exact Option.some.inj hd ▸ hc
  · rw [setConn_other hi] at hd
    exact h.conns i d hd

lemma runChild_ok (h : Ok st) {id : ℕ} {op : ChildOp} : Ok (st.runChild id op) := by
  refine ⟨?_, fun i d hd => ?_⟩
  · rw [runChild_store]
    exact h.store
  · rw [runChild_conns] at hd
    rw [runChild_store]
    exact h.conns i d hd

lemma storeOk_writes {new : AgentRow → Prop} (h : StoreOk store) (hw : Writes new store store')
    (hs : store'.sessions = store.sessions) : StoreOk store' := by
  refine storeOk_grows h (ledger_writes h.ledger hw) (.of_writes hw) fun s hmem => Or.inl ⟨s, ?_, rfl⟩
  rwa [← hs]

lemma command_sessions (store : Requests.State) (group : String) (now : UInt64) (r : GroupRequest) :
    (command store group now r).1.sessions = store.sessions := by
  cases r with
  | groupNew tokenHash =>
    simp only [command]
    split <;> rfl
  | sendMessage session kind text =>
    simp only [command]
    split <;> rfl
  | broadcastMessage kind text => rfl

lemma post_sessions (s : Supervisor) (store : Requests.State) (kind : AgentMsgKind) (text : Bytes)
    (now : UInt64) : (s.post store kind text now).sessions = store.sessions := by
  rw [Supervisor.post]
  split
  · next henq =>
    obtain ⟨bus, row, _, rfl⟩ := Routing.busEnqueue_ok henq
    rfl
  · rfl

lemma supervisor_sessions (s : Supervisor) (text : Bytes) (now : UInt64) (a : Lifecycle.Await) :
    (runSupervisor O store s text now a).1.sessions = store.sessions := by
  cases a with
  | markConsumed left timer =>
    rw [runSupervisor]
    split <;> rfl
  | trace | turnOutput | idleNotice | exitNotice => exact post_sessions ..
  | _ => rfl

lemma command_connOk {group : String} {now : UInt64} {r : GroupRequest} :
    ConnOk store ⟨.group group, (command store group now r).2.1, (command store group now r).2.2⟩ := by
  have htask : ∀ {t}, (command store group now r).2.1 = some t →
      (∀ sp, t ≠ .spawn sp) ∧ ∀ s, t ≠ .recv s := by
    intro t ht
    cases r with
    | groupNew tokenHash =>
      simp only [command] at ht
      split at ht
      · cases ht
        exact ⟨fun _ => Clients.Task.noConfusion, fun _ => Clients.Task.noConfusion⟩
      · cases ht
    | sendMessage session kind text =>
      simp only [command] at ht
      split at ht
      · cases ht
        exact ⟨fun _ => Clients.Task.noConfusion, fun _ => Clients.Task.noConfusion⟩
      · cases ht
    | broadcastMessage kind text =>
      cases ht
      exact ⟨fun _ => Clients.Task.noConfusion, fun _ => Clients.Task.noConfusion⟩
  exact ⟨fun sp hsp => ((htask hsp).1 sp rfl).elim, fun s hs => ((htask hs).2 s rfl).elim,
    fun w hw => (by cases hw), fun w hw => (by cases hw)⟩

lemma ok_initial : Ok initial where
  store := ⟨ledger_initial, fun s hs => by cases hs⟩
  conns _ _ hc := by cases hc

lemma ok_step {l : Label} (h : Ok st) (hs : step O st l = some st') : Ok st' := by
  cases l with
  | request id tokenHash r now =>
    obtain ⟨_, rfl⟩ := stepRequest_iff.mp hs
    exact setConn_ok h (connOk_accept h.store)
  | command id group r now =>
    obtain ⟨_, rfl⟩ := stepCommand_iff.mp hs
    have hw := @writes_command st.store (fun _ => False) group r now
    have hput := put_ok h (storeOk_writes h.store hw (command_sessions ..)) (.of_writes hw)
    exact setConn_ok hput (command_connOk.grows (.of_writes hw))
  | run id opener outcome now =>
    obtain ⟨c, t, hid, ht, rfl, rfl⟩ := stepRun_iff.mp hs
    have hc := h.conns id c hid
    have hstore : StoreOk (runTask O st.store outcome now t).store := storeOk_run h.store hc ht
    have hput := put_ok h hstore grows_runTask
    exact runChild_ok (setConn_ok hput (connOk_run h.store hc ht))
  | fail id opener =>
    obtain ⟨c, t, hid, ht, rfl, rfl⟩ := stepFail_iff.mp hs
    exact setConn_ok h (connOk_fail (h.conns id c hid) ht)
  | supervise id group a text now =>
    obtain ⟨s, hsup, rfl, rfl⟩ := stepSupervise_iff.mp hs
    have hw := @writes_runSupervisor O st.store (fun _ => False) s text now a
    have hput := put_ok h (storeOk_writes h.store hw (supervisor_sessions ..)) (.of_writes hw)
    exact ⟨hput.store, hput.conns⟩
  | restart =>
    obtain rfl := Option.some.inj hs
    refine ⟨h.store, fun id c hc => ?_⟩
    obtain ⟨d, hd, rfl⟩ := Option.map_eq_some_iff.mp hc
    have hold := h.conns id d hd
    refine ⟨fun _ h => (by cases h), fun _ h => (by cases h), fun w hw me hme htoken hrole => ?_,
      fun w hw hnone => ⟨rfl, (hold.stranger w hw hnone).written⟩⟩
    exact ⟨(hold.worker w hw me hme htoken hrole).written, fun _ h => (by cases h)⟩
  | reconcile =>
    have hg := Respawn.extends_reconcile st.store
    obtain rfl := Option.some.inj hs
    have hgrows : Grows st.store { st.store with
        agents := (reconcileStaleAgents st.store.agents st.store.sessions).1
        sessions := (reconcileStaleAgents st.store.agents st.store.sessions).2 } :=
      ⟨hg, List.prefix_refl _⟩
    refine ⟨storeOk_grows h.store h.store.ledger hgrows fun s hs => Or.inl ?_, fun id c hc => ?_⟩
    · exact Registry.mem_setStatus hs
    · exact (h.conns id c hc).grows hgrows

/-- What a step for a worker may do to the store. -/
inductive Worked (store : Requests.State) (me : AgentRow) (now : UInt64) : Requests.State → Prop
  | nothing : Worked store me now store
  | sent {out : Requests.Outgoing} {seq : ℕ} {store' : Requests.State} (hto : ToPrime store me out)
      (h : store.busEnqueue out now = .ok (store', seq)) : Worked store me now store'
  | read {row : AgentMsgRow} (hrow : row ∈ store.log) (hgroup : row.groupName = me.groupName)
      (hto : row.toAgent = me.name)
      (honly : ∀ r ∈ store.bus.rows, r.key = row.key → r.unconsumed = row) :
      Worked store me now { store with
        bus := store.bus.agentMsgMarkConsumed row.groupName row.sessionName row.seq now }

lemma worked_run {t : Task} {outcome : Bool} {now : UInt64} (hs : StoreOk store)
    (h : ConnOk store c) (ht : c.task = some t) (hown : Own store me t) :
    Worked store me now (runTask O store outcome now t).store ∧
      (runTask O store outcome now t).child = .none := by
  cases t with
  | post out =>
    obtain ⟨_, hchild, hsame | ⟨seq, henq⟩⟩ := runTask_post O store outcome now out
    · rw [hsame]
      exact ⟨.nothing, hchild⟩
    · exact ⟨.sent hown henq, hchild⟩
  | recv r =>
    obtain ⟨hgroup, hname⟩ := hown
    have hreads := runRecv_reads (O := O) hs.ledger (h.recv r ht) outcome now
    refine ⟨?_, rfl⟩
    rcases hreads.store with hsame | ⟨row, ⟨hlog, hrg, hto⟩, hmark⟩
    · rw [show (runTask O store outcome now (.recv r)).store = store from hsame]
      exact .nothing
    · rw [show (runTask O store outcome now (.recv r)).store = _ from hmark]
      have honly : ∀ o ∈ store.bus.rows, o.unconsumed.key = row.unconsumed.key →
          o.unconsumed = row.unconsumed :=
        fun o ho hkey => hs.ledger.eq_of_key (hs.ledger.logged o ho) hlog hkey
      have hread : Worked store me now _ :=
        .read hlog (hrg.trans hgroup) (hto.trans hname) honly
      exact hread
  | _ => exact hown.elim

/-- Whatever is asked for with the token of a worker: it reads what was sent to the worker, sends to the
worker's prime and to no one else, and leaves all agents, groups, sessions and supervisors as they are. -/
theorem worker_is_confined {labels : List Label} (h : Run (Fires (step O)) initial labels st)
    (hme : me ∈ st.store.agents.rows) (hrole : me.role = .child) {id : ℕ}
    (hc : st.conns id = some c) (ho : c.opener = .token me.tokenHash) :
    (∀ e ∈ c.written, Harmless st.store me e) ∧
    ∀ outcome now st', step O st (.run id c.opener outcome now) = some st' →
      st'.supervisors = st.supervisors ∧ st'.children = st.children ∧
      Worked st.store me now st'.store := by
  have hok : Ok st := h.invariant (fun _ _ _ hi hs => ok_step hi hs) ok_initial
  have hbound := (hok.conns id c hc).worker _ ho me hme rfl hrole
  refine ⟨hbound.written, fun outcome now st' hs => ?_⟩
  obtain ⟨d, t, hid, ht, _, rfl⟩ := stepRun_iff.mp hs
  obtain rfl := Option.some.inj (hc.symm.trans hid)
  obtain ⟨hworked, hchild⟩ : Worked st.store me now (runTask O st.store outcome now t).store ∧ _ :=
    worked_run hok.store (hok.conns id c hc) ht (hbound.task t ht)
  rw [hchild]
  exact ⟨rfl, rfl, hworked⟩

def reportRun : List Label :=
  newRun 0 [1] "team" 5 ++ spawnRun 1 [1] [2] "team" 6 ++
    [.request 2 [2] (.agentSend "dev" .turnOutput [104, 105]) 9]

theorem worker_is_confined_report : ∃ st st' me, me ∈ st.store.agents.rows ∧ me.role = .child ∧
    step .stable st (.run 2 (.token [2]) true 10) = some st' ∧
    st.store.log.length < st'.store.log.length ∧ st'.children = st.children ∧
    Worked st.store me 10 st'.store := by
  have hsome : (execute (step .stable) initial reportRun).any (fun st =>
      (st.conns 2).any (fun c => c.opener = .token [2]) &&
      st.store.agents.rows.any (fun r => r.tokenHash = [2] && r.role = .child) &&
      (step .stable st (.run 2 (.token [2]) true 10)).any fun st' =>
        st.store.log.length < st'.store.log.length) := by
    decide +kernel
  obtain ⟨st, hst, hall⟩ := (Option.any_eq_true _ _).mp hsome
  simp only [Bool.and_eq_true, List.any_eq_true, Option.any_eq_true, decide_eq_true_eq] at hall
  obtain ⟨⟨⟨c, hc, ho⟩, me, hme, htoken, hrole⟩, st', hst', hlog⟩ := hall
  have hconfined := worker_is_confined (execute_run hst) hme hrole hc (ho.trans (by rw [htoken]))
  rw [ho] at hconfined
  obtain ⟨_, hchildren, hworked⟩ := hconfined.2 true 10 st' hst'
  exact ⟨st, st', me, hme, hrole, hst', hlog, hchildren, hworked⟩

end

end WalkieTalkie.Orchestration.Workers
