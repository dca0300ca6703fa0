import WalkieTalkie.Gateway.Panels

/-! What the panels show stays faithful to the log of the bus, whatever the page, the gateway and the
bus do next. -/

namespace WalkieTalkie.Gateway.Dashboard

open Proto Store Lib Lib.Runs

variable {st st' : State} {log : List AgentMsgRow} {accounts : AgentMsgRow → Prop}
  {group session : String} {p : Panel} {r row : AgentMsgRow}

lemma PanelsOk.frame (h : PanelsOk st) (hlog : st'.log = st.log)
    (hgroup : st'.currentGroup = st.currentGroup) (hpanels : st'.panels = st.panels)
    (hall : ∀ r, st.currentGroup = some r.groupName → Accounts st r → Accounts st' r) :
    PanelsOk st' := by
  intro session p hp
  rw [hpanels] at hp
  obtain ⟨group, hcur, hok⟩ := h session p hp
  refine ⟨group, hgroup.trans hcur, ?_⟩
  rw [hlog]
  exact hok.mono fun r hof hr => Or.inr (hall r (hof.1.symm ▸ hcur) hr)

lemma setSocket_current {id : ℕ} {s s' : Socket} (hs : st.sockets[id]? = some s)
    (hws : st.ws = some id) : (st.setSocket id s').current = some s' := by
  obtain ⟨hlt, _⟩ := List.getElem?_eq_some_iff.mp hs
  exact Option.bind_eq_some_iff.mpr ⟨id, hws, List.getElem?_set_self hlt⟩

lemma accounts_setSocket {id : ℕ} {s s' : Socket} {lost : List AgentMsgRow}
    (hs : st.sockets[id]? = some s)
    (hkeep : st.ws = some id → s.attached = true → s.group = r.groupName → r ∈ s.pending →
      (s'.attached = true ∧ s'.group = r.groupName ∧ r ∈ s'.pending) ∨ r ∈ lost)
    (h : Accounts st r) : Accounts ((st.setSocket id s').lose lost) r := by
  rcases h with hfly | ⟨c, hc, hatt, hgroup, hmem⟩ | hmissed
  · exact Or.inl hfly
  · obtain ⟨id', hws, hid'⟩ := Option.bind_eq_some_iff.mp hc
    by_cases hid : id = id'
    · subst hid
      obtain rfl : s = c := Option.some.inj (hs.symm.trans hid')
      rcases hkeep hws hatt hgroup hmem with ⟨hatt', hgroup', hmem'⟩ | hlost
      · exact Or.inr (Or.inl ⟨s', setSocket_current hs hws, hatt', hgroup', hmem'⟩)
      · exact Or.inr (Or.inr (List.mem_append_right _ hlost))
    · refine Or.inr (Or.inl ⟨c, ?_, hatt, hgroup, hmem⟩)
      exact Option.bind_eq_some_iff.mpr ⟨id', hws, (List.getElem?_set_ne hid).trans hid'⟩
  · exact Or.inr (Or.inr (List.mem_append_left _ hmissed))

lemma Sound.socketOk (h : Sound st) {id : ℕ} {s : Socket} (hs : st.sockets[id]? = some s) :
    SocketOk st.log s :=
  h.sockets s (List.mem_of_getElem? hs)

lemma Sound.setSocket (h : Sound st) {id : ℕ} {s s' : Socket} {lost : List AgentMsgRow}
    (hs : st.sockets[id]? = some s) (hok : SocketOk st.log s')
    (hkeep : ∀ r, st.ws = some id → s.attached = true → s.group = r.groupName → r ∈ s.pending →
      (s'.attached = true ∧ s'.group = r.groupName ∧ r ∈ s'.pending) ∨ r ∈ lost)
    (hlost : ∀ r ∈ lost, r ∈ s.pending) : Sound ((st.setSocket id s').lose lost) where
  ledger := h.ledger
  fits := h.fits
  inFlight := h.inFlight
  missed r hr := by
    rcases List.mem_append.mp hr with hold | hnew
    · exact h.missed r hold
    · exact (h.socketOk hs).pending r (hlost r hnew)
  sockets c hc := by
    rcases List.mem_or_eq_of_mem_set hc with hold | rfl
    · exact h.sockets c hold
    · exact hok
  renders := h.renders
  panels := h.panels.frame rfl rfl rfl fun r _ => accounts_setSocket hs (hkeep r)

lemma lose_nil (st : State) : st.lose [] = st := by
  rw [State.lose, List.append_nil]

lemma Sound.setRenders (h : Sound st) {renders : List Render}
    (hr : ∀ rd ∈ renders, RenderOk st.log rd) : Sound { st with renders } :=
  ⟨h.ledger, h.fits, h.inFlight, h.missed, h.sockets, hr, h.panels⟩

lemma detach_cases (st : State) : (st.current = none ∧ st.detach = st) ∨
    ∃ id s, st.ws = some id ∧ st.sockets[id]? = some s ∧
      st.detach = (st.setSocket id { s with attached := false }).lose s.pending := by
  cases hws : st.ws with
  | none =>
    refine Or.inl ⟨?_, ?_⟩
    · rw [State.current, hws]
      rfl
    · rw [State.detach, hws]
  | some id =>
    cases hs : st.sockets[id]? with
    | none =>
      refine Or.inl ⟨?_, ?_⟩
      · rw [State.current, hws, Option.bind_some, hs]
      · simp only [State.detach, hws, hs]
    | some s =>
      refine Or.inr ⟨id, s, rfl, hs, ?_⟩
      simp only [State.detach, hws, hs]

lemma Sound.detach (h : Sound st) : Sound st.detach := by
  rcases detach_cases st with ⟨_, hsame⟩ | ⟨id, s, _, hs, hdetach⟩
  · rwa [hsame]
  · rw [hdetach]
    have hok := h.socketOk hs
    exact h.setSocket hs ⟨hok.pending, hok.wire⟩ (fun _ _ _ _ => Or.inr) fun _ hr => hr

lemma not_coming_detach (st : State) : ¬Coming st.detach r := by
  rintro ⟨c, hc, hatt, _⟩
  rcases detach_cases st with ⟨hnone, hsame⟩ | ⟨id, s, hws, hs, hdetach⟩
  · rw [hsame, hnone] at hc
    cases hc
  · have hcur : st.detach.current = some { s with attached := false } := by
      rw [hdetach]
      exact setSocket_current hs hws
    rw [hcur] at hc
    obtain rfl := Option.some.inj hc
    cases hatt

lemma Sound.openWs (h : Sound st) (group : String) : Sound (st.openWs group) where
  ledger := h.detach.ledger
  fits := h.detach.fits
  inFlight := h.detach.inFlight
  missed := h.detach.missed
  sockets s hs := by
    rcases List.mem_append.mp hs with hold | hnew
    · exact h.detach.sockets s hold
    · rw [List.mem_singleton.mp hnew]
      exact ⟨fun r hr => (by cases hr), fun r hr => (by cases hr)⟩
  renders := h.detach.renders
  panels := h.detach.panels.frame rfl rfl rfl fun r _ hacc =>
    hacc.imp_right fun hrest => Or.inr (hrest.resolve_left (not_coming_detach st))

lemma Sound.finish (h : Sound st) (k : ℕ) (rd : Render) : Sound (st.finish k rd) := by
  have herase : Sound { st with renders := st.renders.eraseIdx k } :=
    h.setRenders fun rd' hrd => h.renders rd' (List.mem_of_mem_eraseIdx hrd)
  rw [State.finish]
  split
  · have hopen := herase.openWs rd.group
    exact ⟨hopen.ledger, hopen.fits, hopen.inFlight, hopen.missed, hopen.sockets, hopen.renders, hopen.panels⟩
  · exact herase

lemma Sound.setRender (h : Sound st) (k : ℕ) {rd : Render} (hr : RenderOk st.log rd) :
    Sound { st with renders := st.renders.set k rd } := by
  refine h.setRenders fun rd' hrd => ?_
  rcases List.mem_or_eq_of_mem_set hrd with hold | rfl
  · exact h.renders rd' hold
  · exact hr

lemma Sound.startRender (h : Sound st) (group : String) (select : Bool) :
    Sound (st.startRender group select) := by
  refine h.setRenders (forall_mem_snoc h.renders ?_)
  intro loads hl
  cases hl

lemma Sound.buildPanels (h : Sound st) {group : String} (hgroup : st.currentGroup = some group)
    (names : List String) : Sound (st.buildPanels names) := by
  refine ⟨h.ledger, h.fits, h.inFlight, h.missed, h.sockets, h.renders, fun session p hp => ?_⟩
  dsimp only [State.buildPanels] at hp
  split at hp
  · obtain rfl := Option.some.inj hp
    exact ⟨group, hgroup, panelOk_new _ _ _ _⟩
  · exact h.panels session p hp

lemma Sound.takeSessions (h : Sound st) (k : ℕ) (rd : Render) (names : List String) :
    Sound (st.takeSessions k rd names) := by
  unfold State.takeSessions
  split
  · next hgroup =>
    split
    · exact h.finish k rd
    · refine (h.buildPanels hgroup names).setRender k ?_
      intro loads hl l hmem n msgs hreply
      obtain rfl := Phase.loading.inj hl
      obtain ⟨s, _, rfl⟩ := List.mem_map.mp hmem
      cases hreply
  · exact h.finish k rd

lemma Sound.updatePanel (h : Sound st) {group session : String} {p : Panel}
    (hgroup : st.currentGroup = some group) (hp : PanelOk st.log (Accounts st) group session p) :
    Sound { st with panels := Function.update st.panels session (some p) } := by
  refine ⟨h.ledger, h.fits, h.inFlight, h.missed, h.sockets, h.renders, fun session' p' hp' => ?_⟩
  dsimp only at hp'
  by_cases hs : session' = session
  · subst hs
    rw [Function.update_self] at hp'
    obtain rfl := Option.some.inj hp'
    exact ⟨group, hgroup, hp⟩
  · rw [Function.update_of_ne hs] at hp'
    exact h.panels session' p' hp'

lemma Sound.showMessages (h : Sound st) {rd : Render} {session : String}
    {reply : Reply (ℕ × List Shown)}
    (hanswer : ∀ n msgs, reply = .answered (n, msgs) → AnswerOk st.log rd.group session n msgs) :
    Sound (st.showMessages rd session reply) := by
  unfold State.showMessages
  split
  · next n msgs =>
    split
    · exact h
    · next p hp =>
      split
      · next hgroup =>
        obtain ⟨group, hcur, hok⟩ := h.panels session p hp
        obtain rfl : rd.group = group := Option.some.inj (hgroup.symm.trans hcur)
        exact h.updatePanel hgroup (hok.load h (hanswer n msgs rfl))
      · exact h
  · exact h

lemma showMessages_log (st : State) (rd : Render) (session : String) (reply : Reply (ℕ × List Shown)) :
    (st.showMessages rd session reply).log = st.log := by
  unfold State.showMessages
  split
  · split
    · rfl
    · split
      · rfl
      · rfl
  · rfl

lemma Sound.takeMessages (h : Sound st) {k i : ℕ} {rd : Render} {loads : List Load} {l : Load}
    (hrd : st.renders[k]? = some rd) (hphase : rd.phase = .loading loads) (hl : loads[i]? = some l) :
    Sound (st.takeMessages k i rd loads l) := by
  have hok : RenderOk st.log rd := h.renders rd (List.mem_of_getElem? hrd)
  have hshown : Sound (st.showMessages rd l.session l.reply) :=
    h.showMessages fun n msgs hreply => hok loads hphase l (List.mem_of_getElem? hl) n msgs hreply
  unfold State.takeMessages
  split
  · exact hshown.finish k rd
  · refine hshown.setRender k ?_
    intro loads' hl' l' hmem n msgs hreply
    obtain rfl := Phase.loading.inj hl'
    rw [showMessages_log]
    exact hok loads hphase l' (List.mem_of_mem_eraseIdx hmem) n msgs hreply

lemma Sound.answerOk (h : Sound st) (group session : String) :
    AnswerOk st.log group session st.log.length (listMessages st.bus group session 0) := by
  refine ⟨Nat.le_refl _, fun m hm => ?_, fun r hr hof => ?_⟩
  · obtain ⟨r, hr, rfl⟩ := List.mem_map.mp hm
    obtain ⟨hmem, hg, hs, _⟩ := mem_sessionLog.mp hr
    exact ⟨r.unconsumed, h.ledger.logged r hmem, ⟨hg, hs⟩, shown_unconsumed r⟩
  · rw [List.take_length] at hr
    refine (h.ledger.kept r hr).imp_left ?_
    rintro ⟨o, ho, rfl⟩
    refine List.mem_map.mpr ⟨o, mem_sessionLog.mpr ⟨ho, hof.1, hof.2, ?_⟩, (shown_unconsumed o).symm⟩
    exact (cast_lt o.seq).mpr (Or.inl (h.fits _ hr).1)

lemma Sound.receive (h : Sound st) {id : ℕ} {s : Socket} {rest : List AgentMsgRow}
    (hs : st.sockets[id]? = some s) (hwire : s.wire = row :: rest) :
    Sound (st.receive id s row rest) := by
  have hok := h.socketOk hs
  have hrow : row ∈ s.wire := hwire ▸ List.mem_cons_self ..
  have hlog : row ∈ st.log := hok.pending row (List.mem_append_right _ hrow)
  have hsub : ∀ r ∈ rest, r ∈ s.wire := fun r hr => hwire ▸ List.mem_cons_of_mem _ hr
  have hok' : SocketOk st.log { s with wire := rest } :=
    ⟨fun r hr => hok.pending r ((List.mem_append.mp hr).elim (List.mem_append_left _)
      fun hr => List.mem_append_right _ (hsub r hr)), fun r hr => hok.wire r (hsub r hr)⟩
  have hkeep : ∀ r, r ≠ row → Accounts st r →
      Accounts ((st.setSocket id { s with wire := rest }).lose []) r := by
    intro r hne hacc
    refine accounts_setSocket hs (fun _ hatt hgroup hmem => Or.inl ⟨hatt, hgroup, ?_⟩) hacc
    rcases List.mem_append.mp hmem with hrx | hw
    · exact List.mem_append_left _ hrx
    · rw [hwire] at hw
      exact List.mem_append_right _ ((List.mem_cons.mp hw).resolve_left hne)
  rw [lose_nil] at hkeep
  have hother : ∀ session p, st.panels session = some p →
      (st.currentGroup = some s.group → session ≠ row.sessionName) →
      ∃ group, st.currentGroup = some group ∧ PanelOk st.log
        (Accounts (st.setSocket id { s with wire := rest })) group session p := by
    intro session p hp hne
    obtain ⟨group, hcur, hpanel⟩ := h.panels session p hp
    refine ⟨group, hcur, hpanel.mono fun r hof hacc => Or.inr (hkeep r ?_ hacc)⟩
    rintro rfl
    have hgroup : group = s.group := hof.1.symm.trans (hok.wire r hrow)
    exact hne (hgroup ▸ hcur) hof.2.symm
  have hsockets : ∀ c ∈ (st.setSocket id { s with wire := rest }).sockets, SocketOk st.log c := by
    intro c hc
    rcases List.mem_or_eq_of_mem_set hc with hold | rfl
    · exact h.sockets c hold
    · exact hok'
  simp only [State.receive]
  split
  · next hgroup =>
    unfold State.appendMessage
    split
    · next hnone =>
      refine ⟨h.ledger, h.fits, h.inFlight, h.missed, hsockets, h.renders, fun session p hp => ?_⟩
      refine hother session p hp fun _ => ?_
      rintro rfl
      rw [hnone] at hp
      cases hp
    · next p hp =>
      obtain ⟨group, hcur, hpanel⟩ := h.panels _ p hp
      obtain rfl : s.group = group := Option.some.inj (hgroup.symm.trans hcur)
      obtain ⟨hadded, hin⟩ :=
        hpanel.appendMessage h ⟨row, hlog, ⟨hok.wire row hrow, rfl⟩, rfl⟩
      refine ⟨h.ledger, h.fits, h.inFlight, h.missed, hsockets, h.renders, fun session p' hp' => ?_⟩
      dsimp only at hp'
      by_cases hsession : session = row.sessionName
      · subst hsession
        rw [Function.update_self] at hp'
        obtain rfl := Option.some.inj hp'
        refine ⟨s.group, hcur, hadded.mono fun r _ hacc => ?_⟩
        by_cases hr : r = row
        · exact Or.inl (hr ▸ hin)
        · exact Or.inr (hkeep r hr hacc)
      · rw [Function.update_of_ne hsession] at hp'
        exact hother session p' hp' fun _ => hsession
  · next hgroup =>
    refine ⟨h.ledger, h.fits, h.inFlight, h.missed, hsockets, h.renders, fun session p hp => ?_⟩
    exact hother session p hp fun hcur => absurd hcur hgroup

lemma Sound.closed (h : Sound st) {id : ℕ} {s : Socket} (hs : st.sockets[id]? = some s) :
    Sound (st.closed id s) := by
  have hok := h.socketOk hs
  have hok' : SocketOk st.log { s with attached := false } := ⟨hok.pending, hok.wire⟩
  simp only [State.closed]
  split
  · have hlost : Sound ((st.setSocket id { s with attached := false }).lose s.pending) :=
      h.setSocket hs hok' (fun _ _ _ _ => Or.inr) fun _ hr => hr
    exact ⟨hlost.ledger, hlost.fits, hlost.inFlight, hlost.missed, hlost.sockets, hlost.renders, hlost.panels⟩
  · next hws =>
    rw [← lose_nil (st.setSocket id { s with attached := false })]
    exact h.setSocket hs hok' (fun _ hcur => absurd hcur hws) fun _ hr => (by cases hr)

lemma mem_drops_or_push (l : Loop) (row : AgentMsgRow) (h : r ∈ l.rx ∨ r = row) :
    r ∈ l.drops row ∨ r ∈ (l.push row).rx := by
  cases l with
  | connecting => exact Or.inl (List.mem_singleton.mpr (h.resolve_left fun hr => (by cases hr)))
  | running rx =>
    have hmem : r ∈ rx ++ [row] := by
      rw [List.mem_append, List.mem_singleton]
      exact h
    rw [← List.take_append_drop (rx.length + 1 - busCapacity) (rx ++ [row]), List.mem_append] at hmem
    simp only [Loop.drops, Loop.push, Loop.rx]
    exact hmem
  | ended => exact Or.inl (List.mem_singleton.mpr (h.resolve_left fun hr => (by cases hr)))

lemma push_rx (l : Loop) (row : AgentMsgRow) (h : r ∈ (l.push row).rx) : r ∈ l.rx ∨ r = row := by
  cases l with
  | connecting => cases h
  | running rx =>
    simp only [Loop.push, Loop.rx] at h
    have hmem : r ∈ rx ++ [row] := List.mem_of_mem_drop h
    rwa [List.mem_append, List.mem_singleton] at hmem
  | ended => cases h

lemma listening_eq_some {l : Loop} : st.listening = some l ↔ ∃ s, st.current = some s ∧
    s.attached = true ∧ st.currentGroup = some s.group ∧ s.loop = l := by
  cases hc : st.current with
  | none => simp [State.listening, hc]
  | some s => simp [State.listening, hc, and_assoc]

lemma broadcast_current (i : ℕ) (row : AgentMsgRow) : (st.broadcast i row).current =
    st.current.map fun s => { s with loop := s.loop.push row } := by
  change st.ws.bind _ = (st.ws.bind _).map _
  cases st.ws with
  | none => rfl
  | some id => exact List.getElem?_map ..

lemma accounts_broadcast {i : ℕ} (hi : st.inFlight[i]? = some row)
    (hgroup : st.currentGroup = some r.groupName) (h : Accounts st r) :
    Accounts (st.broadcast i row) r := by
  have hmissed : ∀ rows, (st.broadcast i row).missed = st.missed ++ rows → r ∈ rows →
      Accounts (st.broadcast i row) r := by
    intro rows hrows hr
    refine Or.inr (Or.inr ?_)
    rw [hrows]
    exact List.mem_append_right _ hr
  have hsent : r = row ∨ Coming st r → Accounts (st.broadcast i row) r := by
    intro hr
    cases hl : st.listening with
    | none =>
      refine hmissed [row] (by simp only [State.broadcast, State.lose, hl]) ?_
      rcases hr with rfl | ⟨s, hcur, hatt, hs, _⟩
      · exact List.mem_singleton_self _
      · have hsome : st.listening = some s.loop :=
          listening_eq_some.mpr ⟨s, hcur, hatt, hs ▸ hgroup, rfl⟩
        rw [hl] at hsome
        cases hsome
    | some l =>
      obtain ⟨s, hcur, hatt, hs, rfl⟩ := listening_eq_some.mp hl
      have hsgroup : s.group = r.groupName := Option.some.inj (hs.symm.trans hgroup)
      have hcur' : (st.broadcast i row).current = some { s with loop := s.loop.push row } := by
        rw [broadcast_current, hcur]
        rfl
      have hcome : r ∈ (s.loop.push row).rx ++ s.wire → Accounts (st.broadcast i row) r :=
        fun hmem => Or.inr (Or.inl ⟨_, hcur', hatt, hsgroup, hmem⟩)
      have hqueue : r ∈ s.loop.rx ∨ r = row → Accounts (st.broadcast i row) r := by
        intro hr
        rcases mem_drops_or_push s.loop row hr with hdrop | hpush
        · exact hmissed _ (by simp only [State.broadcast, State.lose, hl]) hdrop
        · exact hcome (List.mem_append_left _ hpush)
      rcases hr with rfl | ⟨c, hc, _, _, hmem⟩
      · exact hqueue (Or.inr rfl)
      · obtain rfl : s = c := Option.some.inj (hcur.symm.trans hc)
        rcases List.mem_append.mp hmem with hrx | hw
        · exact hqueue (Or.inl hrx)
        · exact hcome (List.mem_append_right _ hw)
  rcases h with hfly | hcome | hmiss
  · obtain ⟨j, hj⟩ := List.mem_iff_getElem?.mp hfly
    by_cases hij : j = i
    · subst hij
      exact hsent (Or.inl (Option.some.inj (hj.symm.trans hi)))
    · exact Or.inl (List.mem_eraseIdx_iff_getElem?.mpr ⟨j, hij, hj⟩)
  · exact hsent (Or.inr hcome)
  · exact Or.inr (Or.inr (List.mem_append_left _ hmiss))

lemma drops_sub (l : Loop) (row : AgentMsgRow) (h : r ∈ l.drops row) : r ∈ l.rx ∨ r = row := by
  cases l with
  | connecting => exact Or.inr (List.mem_singleton.mp h)
  | running rx =>
    simp only [Loop.drops] at h
    have hmem : r ∈ rx ++ [row] := List.mem_of_mem_take h
    rwa [List.mem_append, List.mem_singleton] at hmem
  | ended => exact Or.inr (List.mem_singleton.mp h)

lemma Sound.past_logged (h : Sound st) {i : ℕ} (hi : st.inFlight[i]? = some row) :
    ∀ r ∈ (match st.listening with | none => [row] | some l => l.drops row), r ∈ st.log := by
  have hrow : row ∈ st.log := h.inFlight row (List.mem_of_getElem? hi)
  intro r hr
  split at hr
  · rwa [List.mem_singleton.mp hr]
  · next l hl =>
    obtain ⟨s, hcur, _, _, rfl⟩ := listening_eq_some.mp hl
    obtain ⟨id, _, hid⟩ := Option.bind_eq_some_iff.mp hcur
    rcases drops_sub s.loop row hr with hrx | rfl
    · exact (h.socketOk hid).pending r (List.mem_append_left _ hrx)
    · exact hrow

lemma Sound.broadcast (h : Sound st) {i : ℕ} (hi : st.inFlight[i]? = some row) :
    Sound (st.broadcast i row) where
  ledger := h.ledger
  fits := h.fits
  inFlight r hr := h.inFlight r (List.mem_of_mem_eraseIdx hr)
  missed r hr := by
    rcases List.mem_append.mp hr with hold | hnew
    · exact h.missed r hold
    · exact h.past_logged hi r hnew
  sockets c hc := by
    obtain ⟨s, hs, rfl⟩ := List.mem_map.mp hc
    refine ⟨fun r hr => ?_, (h.sockets s hs).wire⟩
    rcases List.mem_append.mp hr with hrx | hw
    · rcases push_rx s.loop row hrx with hold | rfl
      · exact (h.sockets s hs).pending r (List.mem_append_left _ hold)
      · exact h.inFlight r (List.mem_of_getElem? hi)
    · exact (h.sockets s hs).pending r (List.mem_append_right _ hw)
  renders := h.renders
  panels := h.panels.frame rfl rfl rfl fun _ hgroup => accounts_broadcast hi hgroup

lemma Sound.stepSocket (h : Sound st) {id : ℕ} {s : Socket} {l : Label}
    (hs : st.sockets[id]? = some s) (hstep : stepSocket st id s l = some st') : Sound st' := by
  have hok := h.socketOk hs
  cases l with
  | subscribe id' =>
    simp only [Dashboard.stepSocket] at hstep
    split at hstep
    · next hloop =>
      obtain rfl := Option.some.inj hstep
      rw [← lose_nil (st.setSocket ..)]
      have hrx : s.pending = s.wire := by
        rw [Socket.pending, hloop]
        rfl
      refine h.setSocket hs ⟨fun r hr => hok.pending r (hrx ▸ hr), hok.wire⟩ ?_ fun _ hr => (by cases hr)
      exact fun r _ hatt hgroup hmem => Or.inl ⟨hatt, hgroup, hrx ▸ hmem⟩
    · cases hstep
  | forward id' =>
    simp only [Dashboard.stepSocket] at hstep
    split at hstep
    · next m rx hloop =>
      obtain rfl := Option.some.inj hstep
      rw [← lose_nil (st.setSocket ..)]
      have hpending : ∀ r, r ∈ s.pending ↔ r = m ∨ r ∈ rx ∨ r ∈ s.wire := by
        intro r
        simp [Socket.pending, hloop, Loop.rx]
      have hwire : ∀ r, r ∈ (if m.groupName = s.group then s.wire ++ [m] else s.wire) ↔
          r ∈ s.wire ∨ (m.groupName = s.group ∧ r = m) := by
        intro r
        by_cases hm : m.groupName = s.group <;> simp [hm]
      refine h.setSocket hs ⟨fun r hr => ?_, fun r hr => ?_⟩ (fun r _ hatt hgroup hmem => ?_)
        fun _ hr => (by cases hr)
      · refine hok.pending r ((hpending r).mpr ?_)
        rcases List.mem_append.mp hr with hrx | hw
        · exact Or.inr (Or.inl hrx)
        · rcases (hwire r).mp hw with hold | ⟨_, rfl⟩
          · exact Or.inr (Or.inr hold)
          · exact Or.inl rfl
      · rcases (hwire r).mp hr with hold | ⟨hm, rfl⟩
        · exact hok.wire r hold
        · exact hm
      · refine Or.inl ⟨hatt, hgroup, List.mem_append.mpr ?_⟩
        rcases (hpending r).mp hmem with rfl | hrx | hw
        · exact Or.inr ((hwire r).mpr (Or.inr ⟨hgroup.symm, rfl⟩))
        · exact Or.inl hrx
        · exact Or.inr ((hwire r).mpr (Or.inl hw))
    · cases hstep
  | endLoop id' =>
    obtain rfl := Option.some.inj hstep
    refine h.setSocket hs ⟨fun r hr => ?_, hok.wire⟩ (fun r hws hatt hgroup hmem => ?_) fun r hr => ?_
    · exact hok.pending r (List.mem_append_right _ hr)
    · rw [if_pos hws]
      exact (List.mem_append.mp hmem).elim Or.inr fun hw => Or.inl ⟨hatt, hgroup, hw⟩
    · split at hr
      · exact List.mem_append_left _ hr
      · cases hr
  | receive id' =>
    simp only [Dashboard.stepSocket] at hstep
    split at hstep
    · next m rest hwire =>
      split at hstep
      · obtain rfl := Option.some.inj hstep
        exact h.receive hs hwire
      · cases hstep
    · cases hstep
  | closed id' =>
    simp only [Dashboard.stepSocket] at hstep
    split at hstep
    · obtain rfl := Option.some.inj hstep
      exact h.closed hs
    · cases hstep
  | _ => cases hstep

lemma Sound.stepRender (h : Sound st) {k : ℕ} {rd : Render} {l : Label}
    (hrd : st.renders[k]? = some rd) (hstep : stepRender st k rd l = some st') : Sound st' := by
  cases l with
  | answerSessions k' works =>
    simp only [Dashboard.stepRender] at hstep
    split at hstep
    · obtain rfl := Option.some.inj hstep
      exact h.setRender k fun loads hl => (by cases hl)
    · cases hstep
  | takeSessions k' =>
    simp only [Dashboard.stepRender] at hstep
    split at hstep
    · obtain rfl := Option.some.inj hstep
      exact h.finish k rd
    · obtain rfl := Option.some.inj hstep
      exact h.takeSessions k rd _
    · cases hstep
  | answerMessages k' i works =>
    simp only [Dashboard.stepRender] at hstep
    split at hstep
    · next loads hphase =>
      split at hstep
      · next session hi =>
        obtain rfl := Option.some.inj hstep
        refine h.setRender k fun loads' hl' l hmem n msgs hreply => ?_
        obtain rfl := Phase.loading.inj hl'
        rcases List.mem_or_eq_of_mem_set hmem with hold | rfl
        · exact h.renders rd (List.mem_of_getElem? hrd) loads hphase l hold n msgs hreply
        · cases works with
          | false => cases hreply
          | true =>
            obtain ⟨rfl, rfl⟩ := Prod.mk.inj (Reply.answered.inj hreply)
            exact h.answerOk rd.group session
      · cases hstep
    · cases hstep
  | takeMessages k' i =>
    simp only [Dashboard.stepRender] at hstep
    split at hstep
    · next loads hphase =>
      split at hstep
      · next l hi =>
        split at hstep
        · cases hstep
        · obtain rfl := Option.some.inj hstep
          exact h.takeMessages hrd hphase hi
      · cases hstep
    · cases hstep
  | _ => cases hstep

lemma Sound.takePoll (h : Sound st) {j : ℕ} {reply : Reply (List String)}
    (hstep : takePoll st j reply = some st') : Sound st' := by
  have hrest : Sound { st with polls := st.polls.eraseIdx j } :=
    ⟨h.ledger, h.fits, h.inFlight, h.missed, h.sockets, h.renders, h.panels⟩
  cases reply with
  | awaited => cases hstep
  | failed =>
    obtain rfl := Option.some.inj hstep
    exact hrest
  | answered names =>
    simp only [Dashboard.takePoll] at hstep
    split at hstep
    · obtain rfl := Option.some.inj hstep
      exact hrest
    · next group _ =>
      split at hstep
      · obtain rfl := Option.some.inj hstep
        exact hrest.startRender group false
      · obtain rfl := Option.some.inj hstep
        exact hrest

lemma Sound.enqueue (h : Sound st) {g s fromAgent toAgent : String} {kind : AgentMsgKind}
    {payload : Bytes} {now : UInt64} {bus : BusTable} (hfits : st.bus.lastSeq g s + 1 < 2 ^ 53)
    (henq : st.bus.agentMsgEnqueue g s fromAgent toAgent kind payload now = .ok (bus, row)) :
    Sound { st with bus, log := st.log ++ [row], inFlight := st.inFlight ++ [row] } := by
  have hrow := (BusTable.agentMsgEnqueue_ok henq).1
  have hseq : row.seq = st.bus.lastSeq g s + 1 := by rw [hrow]
  refine ⟨h.ledger.enqueue henq, forall_mem_snoc h.fits ?_, ?_,
    fun r hr => List.mem_append_left _ (h.missed r hr), fun s hs => ?_, fun rd hrd => ?_, ?_⟩
  · rw [hseq]
    omega
  · exact forall_mem_snoc (fun r hr => List.mem_append_left _ (h.inFlight r hr))
      (List.mem_append_right _ (List.mem_singleton_self _))
  · exact ⟨fun r hr => List.mem_append_left _ ((h.sockets s hs).pending r hr), (h.sockets s hs).wire⟩
  · exact (h.renders rd hrd).grow row
  · intro session p hp
    obtain ⟨group, hcur, hok⟩ := h.panels session p hp
    refine ⟨group, hcur, hok.grow row (fun r hacc => ?_) (Or.inl ?_)⟩
    · exact hacc.imp_left fun hfly => List.mem_append_left _ hfly
    · exact List.mem_append_right _ (List.mem_singleton_self _)

theorem sound_step {l : Label} (h : Sound st) (hstep : step st l = some st') : Sound st' := by
  cases l with
  | enqueue g s fromAgent toAgent kind payload now =>
    simp only [step] at hstep
    split at hstep
    · next hfits =>
      split at hstep
      · cases hstep
      · next henq =>
        obtain rfl := Option.some.inj hstep
        exact h.enqueue hfits henq
    · cases hstep
  | mark g s seq now =>
    obtain rfl := Option.some.inj hstep
    exact ⟨h.ledger.mark g s seq now, h.fits, h.inFlight, h.missed, h.sockets, h.renders, h.panels⟩
  | sessions sessions =>
    obtain rfl := Option.some.inj hstep
    exact ⟨h.ledger, h.fits, h.inFlight, h.missed, h.sockets, h.renders, h.panels⟩
  | broadcast i =>
    obtain ⟨row, hi, rfl⟩ := Option.map_eq_some_iff.mp hstep
    exact h.broadcast hi
  | selectGroup group =>
    obtain rfl := Option.some.inj hstep
    have hcleared : Sound { st with currentGroup := some group, panels := fun _ => none } :=
      ⟨h.ledger, h.fits, h.inFlight, h.missed, h.sockets, h.renders, fun _ _ hp => (by cases hp)⟩
    exact hcleared.startRender group true
  | refreshStatuses =>
    simp only [step] at hstep
    split at hstep
    · cases hstep
    · split at hstep
      · obtain rfl := Option.some.inj hstep
        exact ⟨h.ledger, h.fits, h.inFlight, h.missed, h.sockets, h.renders, h.panels⟩
      · cases hstep
  | answerPoll j works =>
    simp only [step] at hstep
    split at hstep
    · obtain rfl := Option.some.inj hstep
      exact ⟨h.ledger, h.fits, h.inFlight, h.missed, h.sockets, h.renders, h.panels⟩
    · cases hstep
  | takePoll j =>
    obtain ⟨p, _, hp⟩ := Option.bind_eq_some_iff.mp hstep
    exact h.takePoll hp
  | timer i =>
    obtain ⟨group, _, rfl⟩ := Option.map_eq_some_iff.mp hstep
    have hrest : Sound { st with timers := st.timers.eraseIdx i } :=
      ⟨h.ledger, h.fits, h.inFlight, h.missed, h.sockets, h.renders, h.panels⟩
    dsimp only
    split
    · exact hrest.openWs group
    · exact hrest
  | subscribe id | forward id | endLoop id | receive id | closed id =>
    obtain ⟨s, hs, hsocket⟩ := Option.bind_eq_some_iff.mp hstep
    exact h.stepSocket hs hsocket
  | answerSessions k _ | takeSessions k | answerMessages k _ _ | takeMessages k _ =>
    obtain ⟨rd, hrd, hrender⟩ := Option.bind_eq_some_iff.mp hstep
    exact h.stepRender hrd hrender

lemma sound_initial : Sound initial where
  ledger := ledger_initial
  fits _ hr := by cases hr
  inFlight _ hr := by cases hr
  missed _ hr := by cases hr
  sockets _ hs := by cases hs
  renders _ hr := by cases hr
  panels _ _ hp := by cases hp

lemma sound_run {labels : List Label} (h : Run (Fires step) initial labels st) : Sound st :=
  h.invariant (fun _ _ _ hi hs => sound_step hi hs) sound_initial

lemma PanelOk.complete (h : PanelOk log accounts group session p) (hloaded : p.loaded = true)
    (hr : r ∈ log) (hof : Of group session r) :
    shown r ∈ p.transcript ∨ Trimmed log r ∨ accounts r := by
  rw [← List.take_append_drop p.since log, List.mem_append] at hr
  rcases hr with hold | hnew
  · exact (h.old hloaded r hold hof).imp_right Or.inl
  · exact (h.recent r hnew hof).imp_right Or.inr

/-- A panel shows messages of its session and of the group of the page only, none of them twice. What a
loaded panel does not show has been trimmed, is under way, or was broadcast past the page. -/
theorem panels_faithful {labels : List Label} (h : Run (Fires step) initial labels st)
    (hp : st.panels session = some p) : ∃ group, st.currentGroup = some group ∧
    (p.transcript.map Shown.seq).Nodup ∧ (∀ m ∈ p.transcript, Logged st.log group session m) ∧
    (p.loaded = true → ∀ r ∈ st.log, Of group session r →
      shown r ∈ p.transcript ∨ Trimmed st.log r ∨ Accounts st r) := by
  obtain ⟨group, hcur, hok⟩ := (sound_run h).panels session p hp
  refine ⟨group, hcur, ?_, hok.logged, fun hloaded r hr hof => hok.complete hloaded hr hof⟩
  rw [← hok.seen]
  exact hok.nodup

/-- The page shows one group; the selection of another one before it ends late and takes the socket. -/
def staleSelection : List Label :=
  [.sessions (SessionTable.sessionCreate Table.empty ⟨"b", "dev", "prime", "dev", .worktree, .active, 5⟩).1,
    .selectGroup "a", .selectGroup "b", .answerSessions 1 true, .takeSessions 1,
    .answerMessages 1 0 true, .takeMessages 1 0, .subscribe 0, .answerSessions 0 true,
    .takeSessions 0, .subscribe 1, .enqueue "b" "dev" "prime" "dev" .turnInput [104, 105] 7,
    .broadcast 0]

theorem panels_faithful_stale_selection : ∃ st p, execute step initial staleSelection = some st ∧
    st.panels "dev" = some p ∧ p.transcript = [] ∧ ∃ group, st.currentGroup = some group ∧
    ∃ r ∈ st.missed, Of group "dev" r ∧ (Trimmed st.log r ∨ Accounts st r) := by
  have hsome : (execute step initial staleSelection).any (fun st => st.currentGroup = some "b" &&
      (st.panels "dev").any (fun p => p.loaded && p.transcript.isEmpty) &&
      st.missed.any fun r => r ∈ st.log && r.groupName = "b" && r.sessionName = "dev") := by
    decide +kernel
  obtain ⟨st, hst, hall⟩ := (Option.any_eq_true _ _).mp hsome
  simp only [Bool.and_eq_true, List.any_eq_true, Option.any_eq_true, decide_eq_true_eq,
    List.isEmpty_iff] at hall
  obtain ⟨⟨hb, p, hp, hloaded, hempty⟩, r, hr, ⟨hlog, hg⟩, hs⟩ := hall
  obtain ⟨group, hgroup, _, _, hall⟩ := panels_faithful (execute_run hst) hp
  obtain rfl : "b" = group := Option.some.inj (hb.symm.trans hgroup)
  refine ⟨st, p, hst, hp, hempty, "b", hgroup, r, hr, ⟨hg, hs⟩, ?_⟩
  refine (hall hloaded r hlog ⟨hg, hs⟩).resolve_left ?_
  rw [hempty]
  exact List.not_mem_nil

end WalkieTalkie.Gateway.Dashboard
