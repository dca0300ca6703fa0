import WalkieTalkie.Orchestration.Boundary

/-! What the clients of one group do and see. Their steps change no row of another group, and what is
written to them is a function of their own steps. -/

namespace WalkieTalkie.Orchestration.Clients

open Proto Store Lib Lib.Runs
open Requests (scope Evolves)
open Lifecycle (Await)

variable {g : String} {mine : Bytes → Bool} {O : Sorting} {st st' : State}

lemma evolves_reconcile {new : AgentRow → Prop} (store : Requests.State) :
    Evolves new store { store with
      agents := (reconcileStaleAgents store.agents store.sessions).1
      sessions := (reconcileStaleAgents store.agents store.sessions).2 } := by
  have hagents := @Requests.evolves_updateStatus store new
    (fun r => r.status = .starting || r.status = .running || r.status = .awaitingInput) .exited
  exact ⟨hagents.kept, hagents.added, hagents.log⟩

lemma step_reconcile : step O st .reconcile = some (st.put { st.store with
    agents := (reconcileStaleAgents st.store.agents st.store.sessions).1
    sessions := (reconcileStaleAgents st.store.agents st.store.sessions).2 }) :=
  congrArg some (@put_quiet st { st.store with
    agents := (reconcileStaleAgents st.store.agents st.store.sessions).1
    sessions := (reconcileStaleAgents st.store.agents st.store.sessions).2 } rfl).symm

lemma confined_initial : Confined g mine initial where
  agents := fun _ hr => by cases hr
  tasks := fun _ _ _ hconn => by cases hconn
  supervisors := fun _ _ hs => by cases hs
  children := fun _ _ _ hi => by cases hi

lemma Confined.step (h : Confined g mine st) {l : Label} (hm : Mints g mine l)
    (hs : step O st l = some st') : Confined g mine st' := by
  cases l with
  | request id tokenHash r now =>
    obtain ⟨hid, rfl⟩ := stepRequest_iff.mp hs
    refine h.setConn (fun c' hc' => ?_) fun t ht => ?_
    · rw [hid] at hc'
      cases hc'
    · rw [accepted_opener]
      exact h.accepted_fits hm ht
  | command id group r now =>
    obtain ⟨hid, rfl⟩ := stepCommand_iff.mp hs
    have hput := h.put (@writes_command st.store (fun _ => False) group r now).evolves
      fun _ hr => hr.elim
    refine hput.setConn (fun c' hc' => ?_) fun t ht => ?_
    · simp [State.put, hid] at hc'
    · exact ⟨group, (command_starts ht).fits hm, decide_eq_true_iff⟩
  | run id opener outcome now =>
    obtain ⟨c, t, hid, ht, rfl, rfl⟩ := stepRun_iff.mp hs
    exact h.run hid ht
  | fail id opener =>
    obtain ⟨c, t, hid, ht, rfl, rfl⟩ := stepFail_iff.mp hs
    refine h.setConn (fun c' hc' => ?_) fun t' ht' => ?_
    · rw [hid] at hc'
      obtain rfl := Option.some.inj hc'
      rfl
    · obtain ⟨group, hfits, hsame⟩ := h.tasks id c t hid ht
      exact ⟨group, hfits.continues (failTask_continues ht'), hsame⟩
  | supervise id group a text now =>
    obtain ⟨s, hsup, rfl, rfl⟩ := stepSupervise_iff.mp hs
    exact h.supervise hsup
  | restart =>
    obtain rfl := Option.some.inj hs
    refine ⟨h.agents, fun id c t hconn ht => ?_, fun _ _ hno => ?_, fun _ _ _ hno => ?_⟩
    · obtain ⟨c', _, rfl⟩ := Option.map_eq_some_iff.mp hconn
      cases ht
    · cases hno
    · cases hno
  | reconcile =>
    rw [step_reconcile] at hs
    obtain rfl := Option.some.inj hs
    exact h.put (@evolves_reconcile (fun _ => False) st.store) fun _ hr => hr.elim

lemma scope_of_task {c : Conn} (h : ∀ t, c.task = some t → t.scope g = t) : c.scope g = c := by
  obtain ⟨opener, task, written⟩ := c
  cases task with
  | none => rfl
  | some t => simp [Conn.scope, h t rfl]

lemma Confined.task_within (h : Confined g mine st) {id : ℕ} {c : Conn} {t : Task}
    (hid : st.conns id = some c) (ht : c.task = some t) :
    t.Uniform ∧ (c.opener.within g mine = true ↔ t.group = g) := by
  obtain ⟨group, hfits, hsame⟩ := h.tasks id c t hid ht
  rw [hfits.group]
  exact ⟨hfits.uniform, hsame⟩

lemma Confined.fresh_token (h : Confined g mine st) {id : ℕ} {c : Conn} {t : Task} {row r : AgentRow}
    (hid : st.conns id = some c) (ht : c.task = some t) (hg : t.group = g) (hrow : t.mints row)
    (hr : r ∈ st.store.agents.rows) (heq : r.tokenHash = row.tokenHash) : r.groupName = g := by
  obtain ⟨group, hfits, _⟩ := h.tasks id c t hid ht
  have hmine : mine row.tokenHash = true := (hfits.mints row hrow).mpr ((mints_group hrow).trans hg)
  rw [← heq] at hmine
  exact (h.agents r hr).mp hmine

lemma view_conn {id : ℕ} {c : Conn} (hid : st.conns id = some c)
    (hc : c.opener.within g mine = true) : (view g mine st).conns id = some (c.scope g) := by
  simp [view, hid, Option.filter, hc]

lemma view_conn_none {id : ℕ} (hid : st.conns id = none) : (view g mine st).conns id = none := by
  simp [view, hid]

lemma view_answered {id : ℕ} {c : Conn} (task : Option Task) (events : List Event)
    (hc : c.opener.within g mine = true) :
    view g mine (st.setConn id (answered c task events)) =
      (view g mine st).setConn id (answered (c.scope g) (task.map (Task.scope g)) events) :=
  @view_setConn g mine st id (answered c task events) hc

lemma replays_request (h : Confined g mine st) {id : ℕ} {tokenHash : Bytes} {r : AgentRequest}
    {now : UInt64} (ho : mine tokenHash = true)
    (hs : stepRequest st id tokenHash r now = some st') :
    stepRequest (view g mine st) id tokenHash r now = some (view g mine st') := by
  obtain ⟨hid, rfl⟩ := stepRequest_iff.mp hs
  refine stepRequest_iff.mpr ⟨view_conn_none hid, ?_⟩
  have haccept : accept (view g mine st).store tokenHash now r =
      accept st.store tokenHash now r := by
    refine accept_scope r fun row hrow heq => (h.agents row hrow).mp ?_
    rw [heq]
    exact ho
  have hscope : (accepted (accept st.store tokenHash now r) (.token tokenHash)).scope g =
      accepted (accept st.store tokenHash now r) (.token tokenHash) :=
    scope_of_task fun t ht =>
      have ⟨_, _, hstarts⟩ := accepted_starts ht
      hstarts.empty g
  rw [view_setConn, hscope, haccept]
  rw [accepted_opener]
  exact ho

lemma replays_command {id : ℕ} {r : GroupRequest} {now : UInt64}
    (hs : stepCommand st id g r now = some st') :
    stepCommand (view g mine st) id g r now = some (view g mine st') := by
  obtain ⟨hid, rfl⟩ := stepCommand_iff.mp hs
  refine stepCommand_iff.mpr ⟨view_conn_none hid, ?_⟩
  have hcommand : command (view g mine st).store g now r =
      (scope g (command st.store g now r).1, (command st.store g now r).2) := command_scope r now
  have hlog := (@writes_command st.store (fun _ => False) g r now).evolves.log
  have hscope : Conn.scope g ⟨.group g, (command st.store g now r).2.1,
      (command st.store g now r).2.2⟩ = ⟨.group g, (command st.store g now r).2.1,
      (command st.store g now r).2.2⟩ := scope_of_task fun t ht => (command_starts ht).empty g
  rw [view_setConn, view_put hlog, hscope, hcommand]
  exact decide_eq_true rfl

lemma replays_run (h : Confined g mine st) {id : ℕ} {opener : Opener} {outcome : Bool}
    {now : UInt64} (ho : opener.within g mine = true)
    (hs : stepRun O st id opener outcome now = some st') :
    stepRun O (view g mine st) id opener outcome now = some (view g mine st') := by
  obtain ⟨c, t, hid, ht, rfl, rfl⟩ := stepRun_iff.mp hs
  obtain ⟨huniform, hwithin⟩ := h.task_within hid ht
  have hg := hwithin.mp ho
  have hrun : runTask O (view g mine st).store outcome now (t.scope g) =
      (runTask O st.store outcome now t).scope g :=
    runTask_scope outcome now hg huniform fun row hrow r hr => h.fresh_token hid ht hg hrow hr
  have hlog := (@writes_runTask O st.store t outcome now).evolves.log
  have hchild : (runTask O st.store outcome now t).child.Within g := by
    rw [← hg]
    exact runTask_child t outcome now
  refine stepRun_iff.mpr ⟨c.scope g, t.scope g, view_conn hid ho, by simp [Conn.scope, ht], rfl, ?_⟩
  rw [view_runChild hchild, view_answered _ _ ho, view_put hlog, hrun]
  rfl

lemma replays_fail {id : ℕ} {opener : Opener} (ho : opener.within g mine = true)
    (hs : stepFail st id opener = some st') :
    stepFail (view g mine st) id opener = some (view g mine st') := by
  obtain ⟨c, t, hid, ht, rfl, rfl⟩ := stepFail_iff.mp hs
  refine stepFail_iff.mpr ⟨c.scope g, t.scope g, view_conn hid ho, by simp [Conn.scope, ht], rfl, ?_⟩
  rw [view_answered _ _ ho, failTask_scope]

lemma replays_supervise {id : ℕ} {a : Await} {text : Bytes} {now : UInt64}
    (hs : stepSupervise O st id g a text now = some st') :
    stepSupervise O (view g mine st) id g a text now = some (view g mine st') := by
  obtain ⟨s, hsup, hg, rfl⟩ := stepSupervise_iff.mp hs
  have hrun : runSupervisor O (view g mine st).store s text now a =
      (scope g (runSupervisor O st.store s text now a).1,
        (runSupervisor O st.store s text now a).2) := runSupervisor_scope text now a hg
  have hconns := congrArg State.conns (@view_put g mine st _
    (@writes_runSupervisor O st.store (fun _ => False) s text now a).evolves.log)
  refine stepSupervise_iff.mpr ⟨s, by simp [view, hsup, Option.filter, hg], hg, ?_⟩
  rw [hrun]
  refine State.ext rfl hconns (funext fun i => ?_) (funext fun k => ?_)
  · by_cases hi : i = id
    · subst hi
      cases hnext : (runSupervisor O st.store s text now a).2 with
      | none => simp [view]
      | some s' =>
        have hg' : s'.group = g := (runSupervisor_group hnext).trans hg
        simp [view, Option.filter, hg']
    · simp [view, hi]
  · cases (runSupervisor O st.store s text now a).2 with
    | some s' => simp [view, forgets]
    | none =>
      by_cases hk : k = (s.group, s.session)
      · subst hk
        simp [view, forgets]
      · simp [view, forgets, hk]

lemma Confined.replays (h : Confined g mine st) {l : Label}
    (hs : Clients.step O st l = some st') (ho : own g mine l = true) :
    Clients.step O (view g mine st) l = some (view g mine st') := by
  cases l with
  | request id tokenHash r now => exact replays_request h ho hs
  | command id group r now =>
    obtain rfl := of_decide_eq_true ho
    exact replays_command hs
  | run id opener outcome now => exact replays_run h ho hs
  | fail id opener => exact replays_fail ho hs
  | supervise id group a text now =>
    obtain rfl := of_decide_eq_true ho
    exact replays_supervise hs
  | restart =>
    obtain rfl := Option.some.inj hs
    refine congrArg some (State.ext rfl (funext fun id => ?_) rfl (funext fun k => ?_))
    · cases hid : st.conns id with
      | none => simp [view, hid]
      | some c => cases hc : c.opener.within g mine <;> simp [view, hid, Option.filter, hc, Conn.scope]
    · simp [view]
  | reconcile =>
    rw [step_reconcile] at hs
    obtain rfl := Option.some.inj hs
    have hlog := (@evolves_reconcile (fun _ => False) st.store).log
    rw [step_reconcile, view_put hlog]
    simp [view, scope, reconcileStaleAgents_scope]

lemma hides_setConn {id : ℕ} {c c' : Conn} (hid : st.conns id = some c)
    (hopener : c'.opener = c.opener) (ho : c.opener.within g mine = false) :
    view g mine (st.setConn id c') = view g mine st := by
  refine view_setConn_other (hopener ▸ ho) fun d hd => ?_
  rw [hid] at hd
  obtain rfl := Option.some.inj hd
  exact ho

lemma view_put_other {store : Requests.State} (h : st.store.log <+: store.log)
    (hscope : scope g store = scope g st.store) : view g mine (st.put store) = view g mine st := by
  rw [view_put h, hscope]
  exact put_quiet rfl

lemma hides_run (h : Confined g mine st) {id : ℕ} {opener : Opener} {outcome : Bool}
    {now : UInt64} (ho : opener.within g mine = false)
    (hs : stepRun O st id opener outcome now = some st') : view g mine st' = view g mine st := by
  obtain ⟨c, t, hid, ht, rfl, rfl⟩ := stepRun_iff.mp hs
  obtain ⟨huniform, hwithin⟩ := h.task_within hid ht
  have hg : t.group ≠ g := fun hg => by simp [hwithin.mpr hg] at ho
  have hput : (st.put (runTask O st.store outcome now t).store).conns id =
      some (c.receive (newRows st.store (runTask O st.store outcome now t).store)) := by
    simp [State.put, hid]
  have hsups : ∀ s, st.supervisors id = some s → s.group ≠ g := by
    intro s hsup hsg
    obtain ⟨c', hid', hsame⟩ := h.supervisors id s hsup
    obtain rfl := Option.some.inj (hid.symm.trans hid')
    simp [hsame.mpr hsg] at ho
  rw [view_runChild_other (h.answer hid ht) (runTask_child t outcome now) hg hsups,
    hides_setConn hput, view_put_other (@writes_runTask O st.store t outcome now).evolves.log
      (runTask_scope_other outcome now hg huniform)]
  · rw [receive_opener]
    rfl
  · rw [receive_opener]
    exact ho

lemma hides_supervise {id : ℕ} {group : String} {a : Await} {text : Bytes} {now : UInt64}
    (hg : group ≠ g) (hs : stepSupervise O st id group a text now = some st') :
    view g mine st' = view g mine st := by
  obtain ⟨s, hsup, rfl, rfl⟩ := stepSupervise_iff.mp hs
  have hput := @view_put_other g mine st _
    (@writes_runSupervisor O st.store (fun _ => False) s text now a).evolves.log
    (runSupervisor_scope_other text now a hg)
  have hstore := congrArg State.store hput
  have hconns := congrArg State.conns hput
  refine State.ext hstore hconns (funext fun i => ?_) (funext fun k => ?_)
  · by_cases hi : i = id
    · subst hi
      cases hnext : (runSupervisor O st.store s text now a).2 with
      | none => simp [view, hsup, Option.filter, hg]
      | some s' =>
        have hg' : s'.group ≠ g := (runSupervisor_group hnext).symm ▸ hg
        simp [view, hsup, Option.filter, hg, hg']
    · simp [view, hi]
  · cases (runSupervisor O st.store s text now a).2 with
    | some s' => simp [view, forgets]
    | none =>
      by_cases hk : k = (s.group, s.session)
      · subst hk
        simp [view, forgets, hg]
      · simp [view, forgets, hk]

lemma Confined.hides (h : Confined g mine st) {l : Label} (hs : Clients.step O st l = some st')
    (ho : own g mine l = false) : view g mine st' = view g mine st := by
  cases l with
  | request id tokenHash r now =>
    obtain ⟨hid, rfl⟩ := stepRequest_iff.mp hs
    refine view_setConn_other ?_ fun c hc => ?_
    · rw [accepted_opener]
      exact ho
    · rw [hid] at hc
      cases hc
  | command id group r now =>
    obtain ⟨hid, rfl⟩ := stepCommand_iff.mp hs
    have hg : group ≠ g := of_decide_eq_false ho
    have hput := @view_put_other g mine st _
      (@writes_command st.store (fun _ => False) group r now).evolves.log (command_scope_other r now hg)
    rw [← hput]
    refine view_setConn_other ho fun c hc => ?_
    simp [State.put, hid] at hc
  | run id opener outcome now => exact hides_run h ho hs
  | fail id opener =>
    obtain ⟨c, t, hid, ht, rfl, rfl⟩ := stepFail_iff.mp hs
    exact hides_setConn hid rfl ho
  | supervise id group a text now => exact hides_supervise (of_decide_eq_false ho) hs
  | restart => cases ho
  | reconcile => cases ho

theorem unwinds (g : String) (mine : Bytes → Bool) (O : Sorting) :
    Unwinds (step O) (step O) (view g mine) (own g mine) (Mints g mine) (Confined g mine) where
  keeps := fun _ _ _ h hm hs => h.step hm hs
  replays := fun _ _ _ h _ hs ho => h.replays hs ho
  hides := fun _ _ _ h _ hs ho => h.hides hs ho

def Opener.groupIn (store : Requests.State) : Opener → Option String
  | .token tokenHash => (store.agents.agentByToken tokenHash).map AgentRow.groupName
  | .group name => some name

/-- The group that a step of a request or of a supervisor is for: for a request with a token, the group
of the token. -/
def Label.groupIn (store : Requests.State) : Label → Option String
  | .request _ tokenHash _ _ => Opener.groupIn store (.token tokenHash)
  | .command _ group _ _ => some group
  | .run _ opener _ _ => opener.groupIn store
  | .fail _ opener => opener.groupIn store
  | .supervise _ group _ _ _ => some group
  | .restart => none
  | .reconcile => none

def Opened (st : State) : Prop :=
  ∀ id c t, st.conns id = some c → c.task = some t →
    c.opener.groupIn st.store = some t.group ∧ t.Uniform

lemma groupIn_evolves {new : AgentRow → Prop} {store store' : Requests.State} {opener : Opener}
    {group : String} (he : Evolves new store store') (h : opener.groupIn store = some group) :
    opener.groupIn store' = some group := by
  cases opener with
  | group name => exact h
  | token tokenHash =>
    obtain ⟨me, hme, rfl⟩ := Option.map_eq_some_iff.mp h
    obtain ⟨hmem, rfl⟩ := agentByToken_mem hme
    obtain ⟨r, hr, htoken, hgroup⟩ := he.kept me hmem
    rw [← htoken, ← hgroup, Opener.groupIn, agentByToken_of_mem hr]
    rfl

lemma Opened.put (h : Opened st) {new : AgentRow → Prop} {store : Requests.State}
    (he : Evolves new st.store store) : Opened (st.put store) := by
  intro id c t hconn ht
  obtain ⟨c', hconn', rfl⟩ := Option.map_eq_some_iff.mp hconn
  obtain ⟨t', ht', hcont⟩ := receive_continues ht
  obtain ⟨hgroup, huniform⟩ := h id c' t' hconn' ht'
  rw [receive_opener, hcont.group]
  exact ⟨groupIn_evolves he hgroup, hcont.uniform huniform⟩

lemma Opened.setConn (h : Opened st) {id : ℕ} {c : Conn}
    (hc : ∀ t, c.task = some t → c.opener.groupIn st.store = some t.group ∧ t.Uniform) :
    Opened (st.setConn id c) := by
  intro i c' t hconn ht
  by_cases hi : i = id
  · subst hi
    obtain rfl : c = c' := by simpa [State.setConn] using hconn
    exact hc t ht
  · exact h i c' t (by simpa [State.setConn, hi] using hconn) ht

lemma runChild_store (id : ℕ) (op : ChildOp) : (st.runChild id op).store = st.store := by
  cases op with
  | kill group child =>
    rw [State.runChild]
    split <;> rfl
  | _ => rfl

lemma runChild_conns (id : ℕ) (op : ChildOp) : (st.runChild id op).conns = st.conns := by
  cases op with
  | kill group child =>
    rw [State.runChild]
    split <;> rfl
  | _ => rfl

lemma Opened.step (h : Opened st) {l : Label} (hs : step O st l = some st') : Opened st' := by
  cases l with
  | request id tokenHash r now =>
    obtain ⟨_, rfl⟩ := stepRequest_iff.mp hs
    refine h.setConn fun t ht => ?_
    obtain ⟨me, hme, hstarts⟩ := accepted_starts ht
    rw [accepted_opener, Opener.groupIn, hme, hstarts.group]
    exact ⟨rfl, hstarts.uniform⟩
  | command id group r now =>
    obtain ⟨_, rfl⟩ := stepCommand_iff.mp hs
    have hput := h.put (@writes_command st.store (fun _ => False) group r now).evolves
    refine hput.setConn fun t ht => ?_
    have hstarts := command_starts ht
    exact ⟨congrArg some hstarts.group.symm, hstarts.uniform⟩
  | run id opener outcome now =>
    obtain ⟨c, t, hid, ht, rfl, rfl⟩ := stepRun_iff.mp hs
    obtain ⟨hgroup, huniform⟩ := h id c t hid ht
    have he := (@writes_runTask O st.store t outcome now).evolves
    intro i c' t' hconn ht'
    rw [runChild_conns] at hconn
    rw [runChild_store]
    refine (h.put he).setConn (fun t'' ht'' => ?_) i c' t' hconn ht'
    have hcont := runTask_continues ht''
    rw [hcont.group]
    exact ⟨groupIn_evolves he hgroup, hcont.uniform huniform⟩
  | fail id opener =>
    obtain ⟨c, t, hid, ht, rfl, rfl⟩ := stepFail_iff.mp hs
    obtain ⟨hgroup, huniform⟩ := h id c t hid ht
    refine h.setConn fun t' ht' => ?_
    have hcont := failTask_continues ht'
    rw [hcont.group]
    exact ⟨hgroup, hcont.uniform huniform⟩
  | supervise id group a text now =>
    obtain ⟨s, _, rfl, rfl⟩ := stepSupervise_iff.mp hs
    exact h.put (@writes_runSupervisor O st.store (fun _ => False) s text now a).evolves
  | restart =>
    obtain rfl := Option.some.inj hs
    intro id c t hconn ht
    obtain ⟨c', _, rfl⟩ := Option.map_eq_some_iff.mp hconn
    cases ht
  | reconcile =>
    rw [step_reconcile] at hs
    obtain rfl := Option.some.inj hs
    exact h.put (@evolves_reconcile (fun _ => False) st.store)

lemma opened_run {ls : List Label} (hrun : Run (Fires (step O)) initial ls st) : Opened st := by
  refine hrun.invariant (fun _ _ _ h hs => Opened.step h hs) fun id c t hconn ht => ?_
  cases hconn

lemma Opened.frame (h : Opened st) {l : Label} {group other : String}
    (hs : Clients.step O st l = some st') (hl : l.groupIn st.store = some group)
    (hne : other ≠ group) : scope other st'.store = scope other st.store := by
  cases l with
  | request id tokenHash r now =>
    obtain ⟨_, rfl⟩ := stepRequest_iff.mp hs
    rfl
  | command id k r now =>
    obtain ⟨_, rfl⟩ := stepCommand_iff.mp hs
    obtain rfl := Option.some.inj hl
    exact command_scope_other r now hne.symm
  | run id opener outcome now =>
    obtain ⟨c, t, hid, ht, rfl, rfl⟩ := stepRun_iff.mp hs
    obtain ⟨hgroup, huniform⟩ := h id c t hid ht
    obtain rfl : group = t.group := Option.some.inj (hl.symm.trans hgroup)
    rw [runChild_store]
    exact runTask_scope_other outcome now hne.symm huniform
  | fail id opener =>
    obtain ⟨c, t, _, _, rfl, rfl⟩ := stepFail_iff.mp hs
    rfl
  | supervise id k a text now =>
    obtain ⟨s, _, rfl, rfl⟩ := stepSupervise_iff.mp hs
    obtain rfl := Option.some.inj hl
    exact runSupervisor_scope_other text now a hne.symm
  | restart => cases hl
  | reconcile => cases hl

lemma same_conn {id : ℕ} {c : Conn} (h : view g mine st = view g mine st')
    (hid : st.conns id = some c) (hc : c.opener.within g mine = true) :
    ∃ c', st'.conns id = some c' ∧ c'.opener = c.opener ∧ c'.written = c.written ∧
      c'.task.isSome = c.task.isSome := by
  have hview := view_conn hid hc
  rw [h] at hview
  obtain ⟨c', hfilter, hscope⟩ := Option.map_eq_some_iff.mp hview
  obtain ⟨hid', _⟩ := Option.filter_eq_some_iff.mp hfilter
  have hopener := congrArg Conn.opener hscope
  have hwritten := congrArg Conn.written hscope
  have htask := congrArg (fun d => d.task.isSome) hscope
  exact ⟨c', hid', hopener, hwritten, by simpa [Conn.scope] using htask⟩

/-- A step for one group leaves the rows of the others as they are, and what the clients of a group
get is the same in two runs with the same steps of this group. -/
theorem groups_apart (O : Sorting) :
    (∀ ls st l st' group, Run (Fires (step O)) initial ls st → step O st l = some st' →
      l.groupIn st.store = some group →
      ∀ other ≠ group, scope other st'.store = scope other st.store) ∧
    ∀ g mine ls ls' st st',
      Run (Guarded (fun _ l => Mints g mine l) (Fires (step O))) initial ls st →
      Run (Guarded (fun _ l => Mints g mine l) (Fires (step O))) initial ls' st' →
      ls.filter (own g mine) = ls'.filter (own g mine) →
      ∀ id c, st.conns id = some c → c.opener.within g mine = true →
        ∃ c', st'.conns id = some c' ∧ c'.opener = c.opener ∧ c'.written = c.written ∧
          c'.task.isSome = c.task.isSome := by
  constructor
  · intro ls st l st' group hrun hs hl other hne
    exact (opened_run hrun).frame hs hl hne
  · intro g mine ls ls' st st' hrun hrun' hsame id c hid hc
    have hview := (unwinds g mine O).same_view confined_initial hrun hrun' hsame
    exact same_conn hview hid hc

def spawnRun (id : ℕ) (tokenHash childHash : Bytes) (group : String) (now : UInt64) : List Label :=
  .request id tokenHash (.spawn group "dev" .new "go" false childHash) now ::
    [true, true, false, true, true, true, true, true, true, true, true, true, true].map fun outcome =>
      .run id (.token tokenHash) outcome now

def newRun (id : ℕ) (tokenHash : Bytes) (group : String) (now : UInt64) : List Label :=
  [.command id group (.groupNew tokenHash) now, .run id (.group group) true now]

def recvRun (id : ℕ) (tokenHash : Bytes) (now : UInt64) : List Label :=
  .request id tokenHash (.agentRecv none none false false) now ::
    List.replicate 3 (.run id (.token tokenHash) true now)

def teamRun : List Label :=
  newRun 0 [1] "team" 5 ++ spawnRun 1 [1] [2] "team" 6 ++ recvRun 2 [2] 9

def busyRun : List Label :=
  newRun 3 [3] "ops" 4 ++ newRun 0 [1] "team" 5 ++ spawnRun 4 [3] [4] "ops" 5 ++
    spawnRun 1 [1] [2] "team" 6 ++ [.request 5 [3] (.agentSend "dev" .control [7]) 8] ++
    recvRun 2 [2] 9

def teamToken (tokenHash : Bytes) : Bool := tokenHash = [1] || tokenHash = [2]

theorem groups_apart_team : ∃ st st' after c c',
    execute (step .stable) initial teamRun = some st ∧
    execute (step .stable) initial busyRun = some st' ∧
    step .stable st' (.run 5 (.token [3]) true 8) = some after ∧
    after.store.log.length = st'.store.log.length + 1 ∧
    scope "team" after.store = scope "team" st'.store ∧
    st.conns 2 = some c ∧ st'.conns 2 = some c' ∧
    c.written = [.agentMsg "dev" "prime" .turnInput (Requests.textBytes "go") 6, .agentBacklogEnd] ∧
    c'.written = c.written := by
  have hteam : ((execute (step .stable) initial teamRun).bind fun st => st.conns 2).map
      (fun c => (c.opener, c.written)) = some (.token [2],
        [.agentMsg "dev" "prime" .turnInput (Requests.textBytes "go") 6, .agentBacklogEnd]) := by
    decide +kernel
  have hbusy : ((execute (step .stable) initial busyRun).bind fun st =>
      (step .stable st (.run 5 (.token [3]) true 8)).map fun after =>
        (Label.groupIn st.store (.run 5 (.token [3]) true 8), after.store.log.length,
          st.store.log.length)) = some (some "ops", 3, 2) := by
    decide +kernel
  obtain ⟨c, hc, hwritten⟩ := Option.map_eq_some_iff.mp hteam
  obtain ⟨st, hst, hid⟩ := Option.bind_eq_some_iff.mp hc
  obtain ⟨st', hst', hafter⟩ := Option.bind_eq_some_iff.mp hbusy
  obtain ⟨after, hstep, hlens⟩ := Option.map_eq_some_iff.mp hafter
  obtain ⟨hopener, hevents⟩ := Prod.mk.inj hwritten
  obtain ⟨hgroup, hlen⟩ := Prod.mk.inj hlens
  obtain ⟨hlen', hlen⟩ := Prod.mk.inj hlen
  have hrun := (execute_run hst).guard (p := Mints "team" teamToken) (by decide)
  have hrun' := (execute_run hst').guard (p := Mints "team" teamToken) (by decide)
  obtain ⟨c', hid', _, hsame, _⟩ := (groups_apart .stable).2 "team" teamToken teamRun busyRun st st'
    hrun hrun' rfl 2 c hid (by rw [hopener]; rfl)
  have hframe := (groups_apart .stable).1 busyRun st' _ after "ops" hrun'.forget hstep hgroup "team"
    (by decide)
  exact ⟨st, st', after, c, c', hst, hst', hstep, by omega, hframe, hid, hid', hevents, hsame⟩

end WalkieTalkie.Orchestration.Clients
