import WalkieTalkie.Lib.Views
import WalkieTalkie.Orchestration.Confined

/-! A group is a boundary. Its tables, connections and supervisors, taken by themselves, go through the
same states whatever the other groups do, as long as no token of another group has the hash of one of
its own. -/

namespace WalkieTalkie.Orchestration.Clients

open Proto Store Lib Lib.Runs
open Requests (Spawn Outgoing scope Evolves)
open Lifecycle (Await)

section

variable (g : String) (mine : Bytes → Bool)

def Opener.within : Opener → Bool
  | .token tokenHash => mine tokenHash
  | .group name => name = g

def view (st : State) : State where
  store := scope g st.store
  conns := fun id => ((st.conns id).filter fun c => c.opener.within g mine).map (Conn.scope g)
  supervisors := fun id => (st.supervisors id).filter fun s => s.group = g
  children := fun k => if k.1 = g then st.children k else none

/-- The steps of the group's requests and supervisors, and those of the whole daemon. -/
def own : Label → Bool
  | .request _ tokenHash _ _ => mine tokenHash
  | .command _ group _ _ => group = g
  | .run _ opener _ _ => opener.within g mine
  | .fail _ opener => opener.within g mine
  | .supervise _ group _ _ _ => group = g
  | .restart => true
  | .reconcile => true

/-- A new token is one of `mine` just when it is for the group. -/
def Mints : Label → Prop
  | .request _ tokenHash r _ => r.Mints mine tokenHash
  | .command _ group r _ => r.Mints g mine group
  | _ => True

instance (l : Label) : Decidable (Mints g mine l) :=
  match l with
  | .request _ tokenHash r _ =>
    inferInstanceAs (Decidable (∀ x ∈ r.newToken, (mine x = true ↔ mine tokenHash = true)))
  | .command _ group r _ =>
    inferInstanceAs (Decidable (∀ x ∈ r.newToken, (mine x = true ↔ group = g)))
  | .run _ _ _ _ => isTrue trivial
  | .fail _ _ => isTrue trivial
  | .supervise _ _ _ _ _ => isTrue trivial
  | .restart => isTrue trivial
  | .reconcile => isTrue trivial

/-- The connection is open, and is one of `g` just when the group is. -/
def Backs (st : State) (id : ℕ) (group : String) : Prop :=
  ∃ c, st.conns id = some c ∧ (c.opener.within g mine = true ↔ group = g)

structure Confined (st : State) : Prop where
  agents : ∀ r ∈ st.store.agents.rows, (mine r.tokenHash = true ↔ r.groupName = g)
  tasks : ∀ id c t, st.conns id = some c → c.task = some t → ∃ group, t.Fits g mine group ∧
    (c.opener.within g mine = true ↔ group = g)
  supervisors : ∀ id s, st.supervisors id = some s → Backs g mine st id s.group
  children : ∀ group child id, st.children (group, child) = some id → Backs g mine st id group

end

variable {g : String} {mine : Bytes → Bool} {O : Sorting} {st st' : State}

lemma newRows_scope {store store' : Requests.State} (h : store.log <+: store'.log) :
    newRows (scope g store) (scope g store') =
      (newRows store store').filter fun r => r.groupName = g := by
  obtain ⟨new, hnew⟩ := h
  simp [newRows, scope, ← hnew]

lemma receive_scope (rows : List AgentMsgRow) (c : Conn) : (c.receive rows).scope g =
    (c.scope g).receive (rows.filter fun r => r.groupName = g) := by
  obtain ⟨opener, task, written⟩ := c
  cases task with
  | none => rfl
  | some t =>
    cases t with
    | recv r => simp [Conn.receive, Conn.scope, Task.scope, Recv.scope]
    | _ => rfl

lemma receive_opener (rows : List AgentMsgRow) (c : Conn) : (c.receive rows).opener = c.opener := by
  obtain ⟨opener, task, written⟩ := c
  cases task with
  | none => rfl
  | some t => cases t <;> rfl

lemma receive_nil (c : Conn) : c.receive [] = c := by
  obtain ⟨opener, task, written⟩ := c
  cases task with
  | none => rfl
  | some t =>
    cases t with
    | recv r => simp [Conn.receive]
    | _ => rfl

lemma put_quiet {store : Requests.State} (h : store.log = st.store.log) :
    st.put store = { st with store } := by
  have hrows : newRows st.store store = [] := by simp [newRows, h]
  refine State.ext rfl (funext fun id => ?_) rfl rfl
  simp only [State.put, hrows]
  cases st.conns id with
  | none => rfl
  | some c => exact congrArg some (receive_nil c)

lemma view_put {store : Requests.State} (h : st.store.log <+: store.log) :
    view g mine (st.put store) = (view g mine st).put (scope g store) := by
  refine State.ext rfl (funext fun id => ?_) rfl rfl
  have hrows := newRows_scope (g := g) h
  simp only [view, State.put, hrows]
  cases st.conns id with
  | none => rfl
  | some c =>
    cases hc : c.opener.within g mine with
    | true => simp [Option.filter, receive_opener, hc, receive_scope]
    | false => simp [Option.filter, receive_opener, hc]

lemma view_setConn {id : ℕ} {c : Conn} (hc : c.opener.within g mine = true) :
    view g mine (st.setConn id c) = (view g mine st).setConn id (c.scope g) := by
  refine State.ext rfl (funext fun i => ?_) rfl rfl
  by_cases hi : i = id
  · subst hi
    simp [view, State.setConn, Option.filter, hc]
  · simp [view, State.setConn, hi]

lemma view_setConn_other {id : ℕ} {c : Conn} (hc : c.opener.within g mine = false)
    (hold : ∀ c', st.conns id = some c' → c'.opener.within g mine = false) :
    view g mine (st.setConn id c) = view g mine st := by
  refine State.ext rfl (funext fun i => ?_) rfl rfl
  by_cases hi : i = id
  · subst hi
    cases hid : st.conns i with
    | none => simp [view, State.setConn, Option.filter, hc, hid]
    | some c' => simp [view, State.setConn, Option.filter, hc, hid, hold c' hid]
  · simp [view, State.setConn, hi]

lemma view_runChild {id : ℕ} {op : ChildOp} (h : op.Within g) :
    view g mine (st.runChild id op) = (view g mine st).runChild id op := by
  cases op with
  | none => rfl
  | start s =>
    refine State.ext rfl rfl (funext fun i => ?_) rfl
    have hs : s.group = g := h
    by_cases hi : i = id
    · subst hi
      simp [view, State.runChild, Option.filter, hs]
    · simp [view, State.runChild, hi]
  | register group child =>
    obtain rfl : group = g := h
    refine State.ext rfl rfl rfl (funext fun k => ?_)
    by_cases hk : k = (group, child)
    · subst hk
      simp [view, State.runChild]
    · simp [view, State.runChild, hk]
  | kill group child =>
    obtain rfl : group = g := h
    cases hchild : st.children (group, child) with
    | none => simp [view, State.runChild, hchild]
    | some i =>
      simp only [view, State.runChild, hchild, if_true]
      refine State.ext rfl rfl (funext fun j => ?_) (funext fun k => ?_)
      · by_cases hj : j = i
        · subst hj
          cases hs : st.supervisors j with
          | none => simp
          | some s => by_cases hsg : s.group = group <;> simp [Option.filter, hsg]
        · simp [hj]
      · by_cases hk : k = (group, child)
        · subst hk
          simp
        · simp [hk]

lemma view_runChild_other {id : ℕ} {op : ChildOp} {group : String} (hc : Confined g mine st)
    (h : op.Within group) (hg : group ≠ g)
    (hid : ∀ s, st.supervisors id = some s → s.group ≠ g) :
    view g mine (st.runChild id op) = view g mine st := by
  cases op with
  | none => rfl
  | start s =>
    refine State.ext rfl rfl (funext fun i => ?_) rfl
    have hs : s.group ≠ g := fun hs => hg ((show s.group = group from h).symm.trans hs)
    by_cases hi : i = id
    · subst hi
      cases hold : st.supervisors i with
      | none => simp [view, State.runChild, Option.filter, hs, hold]
      | some s' => simp [view, State.runChild, Option.filter, hs, hold, hid s' hold]
    · simp [view, State.runChild, hi]
  | register h' child =>
    obtain rfl : h' = group := h
    refine State.ext rfl rfl rfl (funext fun k => ?_)
    by_cases hk : k = (h', child)
    · subst hk
      simp [view, State.runChild, hg]
    · simp [view, State.runChild, hk]
  | kill h' child =>
    obtain rfl : h' = group := h
    cases hchild : st.children (h', child) with
    | none => simp [State.runChild, hchild]
    | some i =>
      simp only [view, State.runChild, hchild]
      refine State.ext rfl rfl (funext fun j => ?_) (funext fun k => ?_)
      · by_cases hj : j = i
        · subst hj
          cases hs : st.supervisors j with
          | none => simp [hs]
          | some s =>
            have hsg : s.group ≠ g := by
              intro he
              obtain ⟨c, hconn, hsame⟩ := hc.supervisors j s hs
              obtain ⟨c', hconn', hsame'⟩ := hc.children _ _ _ hchild
              obtain rfl := Option.some.inj (hconn.symm.trans hconn')
              exact hg (hsame'.mp (hsame.mpr he))
            simp [hs, Option.filter, hsg]
        · simp [hj]
      · by_cases hk : k = (h', child)
        · subst hk
          simp [hg]
        · simp [hk]

lemma receive_continues {rows : List AgentMsgRow} {c : Conn} {t' : Task}
    (h : (c.receive rows).task = some t') : ∃ t, c.task = some t ∧ t.Continues t' := by
  obtain ⟨opener, task, written⟩ := c
  cases task with
  | none => cases h
  | some t =>
    refine ⟨t, rfl, ?_⟩
    cases t <;>
    · obtain rfl := Option.some.inj h
      exact ⟨rfl, fun _ hr => hr, fun hu => hu⟩

lemma Backs.put {id : ℕ} {group : String} (h : Backs g mine st id group) (store : Requests.State) :
    Backs g mine (st.put store) id group := by
  obtain ⟨c, hconn, hsame⟩ := h
  refine ⟨c.receive (newRows st.store store), ?_, ?_⟩
  · simp [State.put, hconn]
  · rw [receive_opener]
    exact hsame

lemma Confined.put (h : Confined g mine st) {new : AgentRow → Prop} {store : Requests.State}
    (he : Evolves new st.store store)
    (hnew : ∀ row, new row → (mine row.tokenHash = true ↔ row.groupName = g)) :
    Confined g mine (st.put store) := by
  constructor
  · intro r hr
    rcases he.added r hr with hr | ⟨r', hr', htoken, hgroup⟩
    · exact hnew r hr
    · rw [htoken, hgroup]
      exact h.agents r' hr'
  · intro id c t hconn ht
    obtain ⟨c', hconn', rfl⟩ := Option.map_eq_some_iff.mp hconn
    obtain ⟨t', ht', hcont⟩ := receive_continues ht
    obtain ⟨group, hfits, hsame⟩ := h.tasks id c' t' hconn' ht'
    refine ⟨group, hfits.continues hcont, ?_⟩
    rw [receive_opener]
    exact hsame
  · exact fun id s hs => (h.supervisors id s hs).put store
  · exact fun group child id hid => (h.children group child id hid).put store

lemma Backs.setConn {id i : ℕ} {group : String} {c : Conn} (h : Backs g mine st i group)
    (hold : ∀ c', st.conns id = some c' → c'.opener = c.opener) :
    Backs g mine (st.setConn id c) i group := by
  obtain ⟨c', hconn, hsame⟩ := h
  by_cases hi : i = id
  · subst hi
    refine ⟨c, by simp [State.setConn], ?_⟩
    rw [← hold c' hconn]
    exact hsame
  · exact ⟨c', by simpa [State.setConn, hi] using hconn, hsame⟩

lemma Confined.setConn (h : Confined g mine st) {id : ℕ} {c : Conn}
    (hold : ∀ c', st.conns id = some c' → c'.opener = c.opener)
    (htask : ∀ t, c.task = some t → ∃ group, t.Fits g mine group ∧
      (c.opener.within g mine = true ↔ group = g)) : Confined g mine (st.setConn id c) := by
  constructor
  · exact h.agents
  · intro i c' t hconn ht
    by_cases hi : i = id
    · subst hi
      obtain rfl : c = c' := by simpa [State.setConn] using hconn
      exact htask t ht
    · exact h.tasks i c' t (by simpa [State.setConn, hi] using hconn) ht
  · exact fun i s hs => (h.supervisors i s hs).setConn hold
  · exact fun group child i hid => (h.children group child i hid).setConn hold

lemma Confined.runChild (h : Confined g mine st) {id : ℕ} {op : ChildOp} {group : String}
    (hback : Backs g mine st id group) (hop : op.Within group) :
    Confined g mine (st.runChild id op) := by
  cases op with
  | none => exact h
  | start s =>
    refine ⟨h.agents, h.tasks, fun i s' hs' => ?_, h.children⟩
    by_cases hi : i = id
    · subst hi
      obtain rfl : s = s' := by simpa [State.runChild] using hs'
      have hsg : s.group = group := hop
      rw [hsg]
      exact hback
    · exact h.supervisors i s' (by simpa [State.runChild, hi] using hs')
  | register h' child =>
    obtain rfl : h' = group := hop
    refine ⟨h.agents, h.tasks, h.supervisors, fun group' child' i hi => ?_⟩
    by_cases hk : (group', child') = (h', child)
    · obtain ⟨rfl, rfl⟩ := Prod.mk.inj hk
      obtain rfl : id = i := by simpa [State.runChild] using hi
      exact hback
    · exact h.children group' child' i (by simpa [State.runChild, hk] using hi)
  | kill h' child =>
    rw [State.runChild]
    split
    · exact h
    · next j hj =>
      refine ⟨h.agents, h.tasks, fun i s' hs' => ?_, fun group' child' i hi => ?_⟩
      · by_cases hij : i = j
        · subst hij
          obtain ⟨s, hs, rfl⟩ := Option.map_eq_some_iff.mp (by simpa using hs')
          exact h.supervisors i s hs
        · exact h.supervisors i s' (by simpa [hij] using hs')
      · by_cases hk : (group', child') = (h', child)
        · rw [hk] at hi
          simp at hi
        · exact h.children group' child' i (by simpa [hk] using hi)

def accepted (result : Except IpcError (Option Task × List Event)) (opener : Opener) : Conn :=
  match result with
  | .ok (task, events) => ⟨opener, task, events⟩
  | .error e => ⟨opener, none, [.err e]⟩

lemma stepRequest_iff {id : ℕ} {tokenHash : Bytes} {r : AgentRequest} {now : UInt64} :
    stepRequest st id tokenHash r now = some st' ↔ st.conns id = none ∧
      st' = st.setConn id (accepted (accept st.store tokenHash now r) (.token tokenHash)) := by
  rw [stepRequest]
  cases hid : st.conns id with
  | some c => simp
  | none =>
    cases accept st.store tokenHash now r with
    | ok x => simp [accepted, eq_comm]
    | error e => simp [accepted, eq_comm]

lemma stepCommand_iff {id : ℕ} {group : String} {r : GroupRequest} {now : UInt64} :
    stepCommand st id group r now = some st' ↔ st.conns id = none ∧
      st' = (st.put (command st.store group now r).1).setConn id
        ⟨.group group, (command st.store group now r).2.1, (command st.store group now r).2.2⟩ := by
  rw [stepCommand]
  cases hid : st.conns id with
  | some c => simp
  | none => simp [eq_comm]

lemma stepRun_iff {id : ℕ} {opener : Opener} {outcome : Bool} {now : UInt64} :
    stepRun O st id opener outcome now = some st' ↔ ∃ c t, st.conns id = some c ∧
      c.task = some t ∧ c.opener = opener ∧
      st' = ((st.put (runTask O st.store outcome now t).store).setConn id
        (answered c (runTask O st.store outcome now t).task
          (runTask O st.store outcome now t).events)).runChild id
        (runTask O st.store outcome now t).child := by
  rw [stepRun]
  cases hid : st.conns id with
  | none => simp
  | some c =>
    cases ht : c.task with
    | none => simp [ht]
    | some t =>
      by_cases ho : c.opener = opener
      · simp [ht, ho, eq_comm]
      · simp [ht, ho]

lemma stepFail_iff {id : ℕ} {opener : Opener} :
    stepFail st id opener = some st' ↔ ∃ c t, st.conns id = some c ∧ c.task = some t ∧
      c.opener = opener ∧ st' = st.setConn id (answered c (failTask t).1 (failTask t).2) := by
  rw [stepFail]
  cases hid : st.conns id with
  | none => simp
  | some c =>
    cases ht : c.task with
    | none => simp [ht]
    | some t =>
      by_cases ho : c.opener = opener
      · simp [ht, ho, eq_comm]
      · simp [ht, ho]

def forgets (s : Supervisor) (s' : Option Supervisor) (children : String × String → Option ℕ) :
    String × String → Option ℕ :=
  if s'.isNone then Function.update children (s.group, s.session) none else children

lemma forgets_some {s : Supervisor} {s' : Option Supervisor} {children : String × String → Option ℕ}
    {k : String × String} {i : ℕ} (h : forgets s s' children k = some i) : children k = some i := by
  rw [forgets] at h
  split at h
  · by_cases hk : k = (s.group, s.session)
    · rw [hk] at h
      simp at h
    · simpa [hk] using h
  · exact h

lemma stepSupervise_iff {id : ℕ} {group : String} {a : Await} {text : Bytes} {now : UInt64} :
    stepSupervise O st id group a text now = some st' ↔ ∃ s, st.supervisors id = some s ∧
      s.group = group ∧
      st' = { st.put (runSupervisor O st.store s text now a).1 with
        supervisors := Function.update st.supervisors id (runSupervisor O st.store s text now a).2
        children := forgets s (runSupervisor O st.store s text now a).2 st.children } := by
  rw [stepSupervise]
  cases hid : st.supervisors id with
  | none => simp
  | some s =>
    by_cases hg : s.group = group
    · constructor
      · intro h
        simp only [if_pos hg] at h
        exact ⟨s, rfl, hg, (Option.some.inj h).symm⟩
      · rintro ⟨u, hu, _, rfl⟩
        obtain rfl := Option.some.inj hu
        exact if_pos hg
    · simp [hg]

lemma accepted_opener (result : Except IpcError (Option Task × List Event)) (opener : Opener) :
    (accepted result opener).opener = opener := by
  cases result <;> rfl

lemma accepted_starts {store : Requests.State} {tokenHash : Bytes} {r : AgentRequest} {now : UInt64}
    {t : Task} (ht : (accepted (accept store tokenHash now r) (.token tokenHash)).task = some t) :
    ∃ me, store.agents.agentByToken tokenHash = some me ∧ t.Starts me.groupName r.newToken := by
  cases hok : accept store tokenHash now r with
  | error e =>
    rw [hok] at ht
    cases ht
  | ok x =>
    obtain ⟨task, events⟩ := x
    rw [hok] at ht
    obtain rfl : task = some t := ht
    exact accept_starts hok

lemma Confined.accepted_fits (h : Confined g mine st) {tokenHash : Bytes} {r : AgentRequest}
    {now : UInt64} {t : Task} (hm : r.Mints mine tokenHash)
    (ht : (accepted (accept st.store tokenHash now r) (.token tokenHash)).task = some t) :
    ∃ group, t.Fits g mine group ∧ (mine tokenHash = true ↔ group = g) := by
  obtain ⟨me, hme, hstarts⟩ := accepted_starts ht
  obtain ⟨hmem, rfl⟩ := agentByToken_mem hme
  have hown := h.agents me hmem
  exact ⟨me.groupName, hstarts.fits fun x hx => (hm x hx).trans hown, hown⟩

lemma Confined.answer (h : Confined g mine st) {id : ℕ} {c : Conn} {t : Task} {outcome : Bool}
    {now : UInt64} (hid : st.conns id = some c) (ht : c.task = some t) :
    Confined g mine ((st.put (runTask O st.store outcome now t).store).setConn id
      (answered c (runTask O st.store outcome now t).task
        (runTask O st.store outcome now t).events)) := by
  obtain ⟨group, hfits, hsame⟩ := h.tasks id c t hid ht
  have hput := h.put (@writes_runTask O st.store t outcome now).evolves hfits.mints
  refine hput.setConn (fun c' hc' => ?_) fun t' ht' => ?_
  · simp only [State.put, hid, Option.map_some, Option.some.injEq] at hc'
    rw [← hc', receive_opener]
    rfl
  · exact ⟨group, hfits.continues (runTask_continues ht'), hsame⟩

lemma Confined.run (h : Confined g mine st) {id : ℕ} {c : Conn} {t : Task} {outcome : Bool}
    {now : UInt64} (hid : st.conns id = some c) (ht : c.task = some t) :
    Confined g mine (((st.put (runTask O st.store outcome now t).store).setConn id
        (answered c (runTask O st.store outcome now t).task
          (runTask O st.store outcome now t).events)).runChild id
        (runTask O st.store outcome now t).child) := by
  obtain ⟨group, hfits, hsame⟩ := h.tasks id c t hid ht
  refine (h.answer hid ht).runChild (?_ : Backs g mine _ id group) ?_
  · exact ⟨_, Function.update_self .., hsame⟩
  · rw [← hfits.group]
    exact runTask_child t outcome now

lemma Confined.supervise (h : Confined g mine st) {id : ℕ} {s : Supervisor} {text : Bytes}
    {now : UInt64} {a : Await} (hs : st.supervisors id = some s) :
    Confined g mine { st.put (runSupervisor O st.store s text now a).1 with
      supervisors := Function.update st.supervisors id (runSupervisor O st.store s text now a).2
      children := forgets s (runSupervisor O st.store s text now a).2 st.children } := by
  have hput := h.put (@writes_runSupervisor O st.store (fun _ => False) s text now a).evolves
    fun _ hr => hr.elim
  refine ⟨hput.agents, hput.tasks, fun i s' hs' => ?_, fun group child i hi => ?_⟩
  · by_cases hi : i = id
    · subst hi
      have hsome : (runSupervisor O st.store s text now a).2 = some s' := by simpa using hs'
      rw [runSupervisor_group hsome]
      exact hput.supervisors i s hs
    · have hsame : st.supervisors i = some s' := by simpa [hi] using hs'
      exact hput.supervisors i s' hsame
  · exact hput.children group child i (forgets_some hi)

end WalkieTalkie.Orchestration.Clients
