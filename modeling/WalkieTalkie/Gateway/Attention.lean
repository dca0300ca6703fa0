import WalkieTalkie.Gateway.Faithful

/-! A page that attends: its socket is for the group it shows, the loop behind it has subscribed, and the
queue of the loop has room. Such a page misses nothing, so its loaded panels come to show whatever is
logged. -/

namespace WalkieTalkie.Gateway.Dashboard

open Proto Store Lib Lib.Runs

/-- The page hears what is broadcast for the group it shows, and its queue has room. -/
def State.attending (st : State) : Bool :=
  match st.listening with
  | some (.running rx) => rx.length < busCapacity
  | _ => false

variable {st st' : State} {session : String} {p : Panel} {row : AgentMsgRow}

lemma attending_iff : st.attending = true ↔ ∃ s rx, st.current = some s ∧ s.attached = true ∧
    st.currentGroup = some s.group ∧ s.loop = .running rx ∧ rx.length < busCapacity := by
  have hrun : st.attending = true ↔ ∃ rx, st.listening = some (.running rx) ∧ rx.length < busCapacity := by
    rw [State.attending]
    split
    · next rx hl => simp [hl]
    · next hl => simpa using fun rx hr => absurd hr (hl rx)
  simp only [hrun, listening_eq_some]
  constructor
  · rintro ⟨rx, ⟨s, hcur, hatt, hgroup, hloop⟩, hroom⟩
    exact ⟨s, rx, hcur, hatt, hgroup, hloop, hroom⟩
  · rintro ⟨s, rx, hcur, hatt, hgroup, hloop, hroom⟩
    exact ⟨rx, ⟨s, hcur, hatt, hgroup, hloop⟩, hroom⟩

/-- The bus logs nothing, and the page that still attends has missed nothing. -/
structure Quiet (st st' : State) : Prop where
  log : st'.log = st.log
  missed : st'.attending = true → st'.missed = st.missed

lemma quiet_of_eq (hlog : st'.log = st.log) (hmissed : st'.missed = st.missed) : Quiet st st' :=
  ⟨hlog, fun _ => hmissed⟩

lemma Quiet.after {st'' : State} (h : Quiet st' st'') (hlog : st'.log = st.log)
    (hmissed : st'.missed = st.missed) : Quiet st st'' :=
  ⟨h.log.trans hlog, fun hatt => (h.missed hatt).trans hmissed⟩

lemma openWs_quiet (st : State) (group : String) : Quiet st (st.openWs group) := by
  constructor
  · rcases detach_cases st with ⟨_, hsame⟩ | ⟨id, s, _, _, hdetach⟩
    · have hlog : st.detach.log = st.log := congrArg State.log hsame
      exact hlog
    · have hlog : st.detach.log = st.log := by
        rw [hdetach]
        rfl
      exact hlog
  · intro hatt
    obtain ⟨s, rx, hcur, _, _, hloop, _⟩ := attending_iff.mp hatt
    have hnew : (st.openWs group).current = some ⟨group, .connecting, [], true⟩ :=
      List.getElem?_concat_length ..
    rw [hnew] at hcur
    obtain rfl := Option.some.inj hcur
    cases hloop

lemma finish_quiet (st : State) (k : ℕ) (rd : Render) : Quiet st (st.finish k rd) := by
  rw [State.finish]
  split
  · have h := openWs_quiet { st with renders := st.renders.eraseIdx k } rd.group
    exact ⟨h.log, h.missed⟩
  · exact quiet_of_eq rfl rfl

lemma takeSessions_quiet (st : State) (k : ℕ) (rd : Render) (names : List String) :
    Quiet st (st.takeSessions k rd names) := by
  unfold State.takeSessions
  split
  · split
    · exact finish_quiet st k rd
    · exact quiet_of_eq rfl rfl
  · exact finish_quiet st k rd

lemma showMessages_missed (st : State) (rd : Render) (session : String)
    (reply : Reply (ℕ × List Shown)) : (st.showMessages rd session reply).missed = st.missed := by
  unfold State.showMessages
  split
  · split
    · rfl
    · split
      · rfl
      · rfl
  · rfl

lemma takeMessages_quiet (st : State) (k i : ℕ) (rd : Render) (loads : List Load) (l : Load) :
    Quiet st (st.takeMessages k i rd loads l) := by
  have hlog := showMessages_log st rd l.session l.reply
  have hmissed := showMessages_missed st rd l.session l.reply
  unfold State.takeMessages
  split
  · exact (finish_quiet _ k rd).after hlog hmissed
  · exact quiet_of_eq hlog hmissed

lemma stepSocket_quiet {id : ℕ} {s : Socket} {l : Label} (hs : st.sockets[id]? = some s)
    (hstep : stepSocket st id s l = some st') : Quiet st st' := by
  cases l with
  | subscribe id' =>
    simp only [stepSocket] at hstep
    split at hstep
    · obtain rfl := Option.some.inj hstep
      exact quiet_of_eq rfl rfl
    · cases hstep
  | forward id' =>
    simp only [stepSocket] at hstep
    split at hstep
    · obtain rfl := Option.some.inj hstep
      exact quiet_of_eq rfl rfl
    · cases hstep
  | endLoop id' =>
    obtain rfl := Option.some.inj hstep
    refine ⟨rfl, fun hatt => ?_⟩
    by_cases hws : st.ws = some id
    · obtain ⟨c, rx, hcur, _, _, hloop, _⟩ := attending_iff.mp hatt
      obtain rfl := Option.some.inj ((setSocket_current hs hws).symm.trans hcur)
      cases hloop
    · simp only [State.lose, if_neg hws, List.append_nil]
      rfl
  | receive id' =>
    simp only [stepSocket] at hstep
    split at hstep
    · next m rest hwire =>
      split at hstep
      · obtain rfl := Option.some.inj hstep
        simp only [State.receive, State.appendMessage]
        split
        · split
          · exact quiet_of_eq rfl rfl
          · exact quiet_of_eq rfl rfl
        · exact quiet_of_eq rfl rfl
      · cases hstep
    · cases hstep
  | closed id' =>
    simp only [stepSocket] at hstep
    split at hstep
    · obtain rfl := Option.some.inj hstep
      simp only [State.closed]
      split
      · next hws =>
        refine ⟨rfl, fun hatt => ?_⟩
        obtain ⟨c, rx, hcur, hattached, _⟩ := attending_iff.mp hatt
        obtain rfl := Option.some.inj ((setSocket_current hs hws).symm.trans hcur)
        cases hattached
      · exact quiet_of_eq rfl rfl
    · cases hstep
  | _ => cases hstep

lemma stepRender_quiet {k : ℕ} {rd : Render} {l : Label}
    (hstep : stepRender st k rd l = some st') : Quiet st st' := by
  cases l with
  | answerSessions k' works =>
    simp only [stepRender] at hstep
    split at hstep
    · obtain rfl := Option.some.inj hstep
      exact quiet_of_eq rfl rfl
    · cases hstep
  | takeSessions k' =>
    simp only [stepRender] at hstep
    split at hstep
    · obtain rfl := Option.some.inj hstep
      exact finish_quiet st k rd
    · obtain rfl := Option.some.inj hstep
      exact takeSessions_quiet st k rd _
    · cases hstep
  | answerMessages k' i works =>
    simp only [stepRender] at hstep
    split at hstep
    · split at hstep
      · obtain rfl := Option.some.inj hstep
        exact quiet_of_eq rfl rfl
      · cases hstep
    · cases hstep
  | takeMessages k' i =>
    simp only [stepRender] at hstep
    split at hstep
    · split at hstep
      · split at hstep
        · cases hstep
        · obtain rfl := Option.some.inj hstep
          exact takeMessages_quiet st k i rd _ _
      · cases hstep
    · cases hstep
  | _ => cases hstep

lemma broadcast_missed {i : ℕ} (hatt : st.attending = true) :
    (st.broadcast i row).missed = st.missed := by
  obtain ⟨s, rx, hcur, hattached, hgroup, hloop, hroom⟩ := attending_iff.mp hatt
  have hl : st.listening = some (.running rx) :=
    listening_eq_some.mpr ⟨s, hcur, hattached, hgroup, hloop⟩
  have hnone : rx.length + 1 - busCapacity = 0 := by omega
  simp only [State.broadcast, State.lose, hl, Loop.drops, hnone, List.take_zero, List.append_nil]

/-- The bus logs at the end, and a page that attends before and after a step misses nothing in it. -/
lemma step_quiet {l : Label} (hatt : st.attending = true) (hstep : step st l = some st') :
    (∃ more, st'.log = st.log ++ more) ∧ (st'.attending = true → st'.missed = st.missed) := by
  have hquiet : Quiet st st' →
      (∃ more, st'.log = st.log ++ more) ∧ (st'.attending = true → st'.missed = st.missed) :=
    fun h => ⟨⟨[], by rw [h.log, List.append_nil]⟩, h.missed⟩
  cases l with
  | enqueue g s fromAgent toAgent kind payload now =>
    simp only [step] at hstep
    split at hstep
    · split at hstep
      · cases hstep
      · next row _ =>
        obtain rfl := Option.some.inj hstep
        exact ⟨⟨[row], rfl⟩, fun _ => rfl⟩
    · cases hstep
  | mark | sessions | selectGroup =>
    obtain rfl := Option.some.inj hstep
    exact hquiet (quiet_of_eq rfl rfl)
  | broadcast i =>
    obtain ⟨row, hi, rfl⟩ := Option.map_eq_some_iff.mp hstep
    exact ⟨⟨[], (List.append_nil _).symm⟩, fun _ => broadcast_missed hatt⟩
  | refreshStatuses =>
    simp only [step] at hstep
    split at hstep
    · cases hstep
    · split at hstep
      · obtain rfl := Option.some.inj hstep
        exact hquiet (quiet_of_eq rfl rfl)
      · cases hstep
  | answerPoll j works =>
    simp only [step] at hstep
    split at hstep
    · obtain rfl := Option.some.inj hstep
      exact hquiet (quiet_of_eq rfl rfl)
    · cases hstep
  | takePoll j =>
    obtain ⟨p, _, hp⟩ := Option.bind_eq_some_iff.mp hstep
    refine hquiet ?_
    unfold takePoll at hp
    split at hp
    · cases hp
    · obtain rfl := Option.some.inj hp
      exact quiet_of_eq rfl rfl
    · dsimp only at hp
      split at hp
      · obtain rfl := Option.some.inj hp
        exact quiet_of_eq rfl rfl
      · split at hp
        · obtain rfl := Option.some.inj hp
          exact quiet_of_eq rfl rfl
        · obtain rfl := Option.some.inj hp
          exact quiet_of_eq rfl rfl
  | timer i =>
    obtain ⟨group, _, rfl⟩ := Option.map_eq_some_iff.mp hstep
    refine hquiet ?_
    dsimp only
    split
    · exact (openWs_quiet _ group).after rfl rfl
    · exact quiet_of_eq rfl rfl
  | subscribe id | forward id | endLoop id | receive id | closed id =>
    obtain ⟨s, hs, hsocket⟩ := Option.bind_eq_some_iff.mp hstep
    exact hquiet (stepSocket_quiet hs hsocket)
  | answerSessions k _ | takeSessions k | answerMessages k _ _ | takeMessages k _ =>
    obtain ⟨rd, _, hrender⟩ := Option.bind_eq_some_iff.mp hstep
    exact hquiet (stepRender_quiet hrender)

def Attends (st : State) (_ : Label) : Prop := st.attending = true

instance (st : State) (l : Label) : Decidable (Attends st l) :=
  inferInstanceAs (Decidable (st.attending = true))

lemma attended {st : State} {labels : List Label} (h : Run (Guarded Attends (Fires step)) st labels st')
    (hatt : st'.attending = true) :
    st.attending = true ∧ st'.missed = st.missed ∧ ∃ more, st'.log = st.log ++ more := by
  induction h with
  | nil => exact ⟨hatt, rfl, [], (List.append_nil _).symm⟩
  | cons hstep _ ih =>
    obtain ⟨hnext, hmissed, more, hlog⟩ := ih hatt
    obtain ⟨⟨more', hlog'⟩, hmissed'⟩ := step_quiet hstep.1 hstep.2
    refine ⟨hstep.1, hmissed.trans (hmissed' hnext), more' ++ more, ?_⟩
    rw [hlog, hlog', List.append_assoc]

/-- While the page attends, a loaded panel loses nothing of what is logged. -/
theorem attended_panel_is_complete {st₀ : State} {labels labels' : List Label}
    (h : Run (Fires step) initial labels st₀) (h' : Run (Guarded Attends (Fires step)) st₀ labels' st)
    (hatt : st.attending = true) (hp : st.panels session = some p) (hloaded : p.loaded = true) :
    ∃ group s, st.currentGroup = some group ∧ st.current = some s ∧
      ∀ r ∈ st.log.drop st₀.log.length, Of group session r →
        shown r ∈ p.transcript ∨ Trimmed st.log r ∨ r ∈ st.inFlight ∨ r ∈ s.pending := by
  have hsound : Sound st := sound_run (h.append h'.forget)
  obtain ⟨_, hmissed, more, hlog⟩ := attended h' hatt
  obtain ⟨group, hcur, hok⟩ := hsound.panels session p hp
  obtain ⟨s, _, hs, _⟩ := attending_iff.mp hatt
  refine ⟨group, s, hcur, hs, fun r hr hof => ?_⟩
  rcases hok.complete hloaded (List.mem_of_mem_drop hr) hof with hshown | htrim | hacc
  · exact Or.inl hshown
  · exact Or.inr (Or.inl htrim)
  · refine Or.inr (Or.inr ?_)
    rcases hacc with hfly | ⟨c, hc, _, _, hmem⟩ | hmiss
    · exact Or.inl hfly
    · obtain rfl := Option.some.inj (hs.symm.trans hc)
      exact Or.inr hmem
    · rw [hmissed] at hmiss
      rw [hlog, List.drop_left] at hr
      have hnodup : (st₀.log ++ more).Nodup := hlog ▸ List.Nodup.of_map _ hsound.ledger.nodup
      exact absurd hr ((List.nodup_append.mp hnodup).2.2 r ((sound_run h).missed r hmiss) r · rfl)

def opened : List Label :=
  [.sessions (SessionTable.sessionCreate Table.empty ⟨"b", "dev", "prime", "dev", .worktree, .active, 5⟩).1,
    .selectGroup "b", .answerSessions 0 true, .takeSessions 0, .answerMessages 0 0 true,
    .takeMessages 0 0, .subscribe 0]

def live : List Label :=
  [.enqueue "b" "dev" "prime" "dev" .turnInput [104, 105] 7, .broadcast 0, .forward 0]

theorem attended_panel_is_complete_live : ∃ st₀ st p group s,
    execute step initial opened = some st₀ ∧
    execute (restrict Attends step) st₀ live = some st ∧ st.panels "dev" = some p ∧
    p.transcript = [] ∧ st.current = some s ∧
    ∃ r ∈ st.log.drop st₀.log.length, Of group "dev" r ∧
      (Trimmed st.log r ∨ r ∈ st.inFlight ∨ r ∈ s.pending) := by
  have hsome : (execute step initial opened).any (fun st₀ =>
      (execute (restrict Attends step) st₀ live).any fun st => st.attending &&
        st.currentGroup = some "b" &&
        (st.panels "dev").any (fun p => p.loaded && p.transcript.isEmpty) &&
        (st.log.drop st₀.log.length).any fun r => r.groupName = "b" && r.sessionName = "dev") := by
    decide +kernel
  obtain ⟨st₀, hst₀, hlive⟩ := (Option.any_eq_true _ _).mp hsome
  obtain ⟨st, hst, hall⟩ := (Option.any_eq_true _ _).mp hlive
  simp only [Bool.and_eq_true, List.any_eq_true, Option.any_eq_true, decide_eq_true_eq,
    List.isEmpty_iff] at hall
  obtain ⟨⟨⟨hatt, hb⟩, p, hp, hloaded, hempty⟩, r, hr, hg, hs⟩ := hall
  obtain ⟨group, s, hgroup, hcur, hall⟩ := attended_panel_is_complete (execute_run hst₀)
    (execute_restrict_run hst) hatt hp hloaded
  obtain rfl : "b" = group := Option.some.inj (hb.symm.trans hgroup)
  refine ⟨st₀, st, p, "b", s, hst₀, hst, hp, hempty, hcur, r, hr, ⟨hg, hs⟩, ?_⟩
  refine (hall r hr ⟨hg, hs⟩).resolve_left ?_
  rw [hempty]
  exact List.not_mem_nil

end WalkieTalkie.Gateway.Dashboard
