import Mathlib.Data.List.Perm.Basic
import WalkieTalkie.Inbox.System

/-! The seam between the backlog and the live tail. What the subscription has written, with what is
left of its backlog, is the answer to its query followed by what it has taken from its receiver; the
answer holds every wanted message recorded before the query, and the receiver is given every one that
is broadcast after the subscription. -/

namespace WalkieTalkie.Inbox

open Proto Store Lib Lib.Runs Subscription

/-- What was broadcast after the subscription. -/
def State.heard (st : State) : List Item := st.sent.drop st.openedSent

def State.recordedBeforeQuery (st : State) : List Item :=
  match st.queried with
  | none => st.log
  | some q => st.log.take q

def State.recordedAfterSubscription (st : State) : List Item := st.log.drop st.openedLog

def timesEmitted (st : State) (x : Item) : ℕ := (st.emitted.map Item.row).count x.row

/-- No broadcast is lost to the subscription and its query is within the limit. -/
def Steady (C : Setting) (st : State) : Label → Prop
  | .lag _ => False
  | .run _ => st.phase = .subscribed → (selected C st.table).length ≤ 10000
  | _ => True

instance (C : Setting) (st : State) (l : Label) : Decidable (Steady C st l) :=
  match l with
  | .lag _ => isFalse not_false
  | .run _ => inferInstanceAs
      (Decidable (st.phase = .subscribed → (selected C st.table).length ≤ 10000))
  | .record .. | .broadcast _ | .enqueue .. | .markDelivered .. | .subscribe | .disconnect =>
    isTrue trivial

def Phase.rest : Phase → List MessageRow
  | .write rows => rows
  | _ => []

/-- The messages of the log, where they have gone and what was known when the subscription opened. -/
structure Recorded (st : State) : Prop where
  inbox : inbox st.table = st.log.map Item.row
  fromPeer : ∀ x ∈ st.log, x.row.peerNodeid = x.row.sender
  perm : (st.sent ++ st.inFlight).Perm st.log
  openedLog : st.openedLog ≤ st.log.length
  openedSent : st.openedSent ≤ st.sent.length
  past : ∀ x ∈ st.sent.take st.openedSent, x ∈ st.log.take st.openedLog
  queried : ∀ q, st.queried = some q → q ≤ st.log.length

/-- What the subscription has done with its backlog and with what it has heard. -/
structure Told (C : Setting) (st : State) : Prop where
  answered : ∀ q, st.queried = some q → st.backlog.Perm (((st.log.take q).map Item.row).filter
    fun row => inBacklog C.want C.channel row && after C.sinceMs row)
  unanswered : st.queried = none → st.backlog = [] ∧ st.emitted = [] ∧
    (st.phase = .idle ∨ st.phase = .subscribed ∨ st.phase = .closed)
  idle : st.phase = .idle → st.rx = [] ∧ st.queried = none
  subscribed : st.phase = .subscribed → st.rx = st.heard ∧ st.queried = none
  told : st.phase ≠ .idle → ∃ taken left rest, st.heard = taken ++ left ∧
    st.emitted.map Item.row ++ rest = st.backlog ++
      (taken.filter fun x => passes C.want C.channel x.event).map Item.row ∧
    (st.phase ≠ .closed → left = st.rx ∧ rest = st.phase.rest)

variable {C : Setting} {st st' : State} {l : Label} {x : Item}

lemma recorded_startOn {channelId : String → ChannelId} {table : MessageTable}
    (h : Built channelId table) : Recorded (startOn table) where
  inbox := by
    rw [startOn, List.map_map]
    exact (List.map_id _).symm
  fromPeer x hx := by
    obtain ⟨row, hrow, rfl⟩ := List.mem_map.mp hx
    obtain ⟨hrow, hd⟩ := List.mem_filter.mp hrow
    exact h.peer_eq_sender hrow (of_decide_eq_true hd)
  perm := List.Perm.of_eq (List.append_nil _)
  openedLog := Nat.zero_le _
  openedSent := Nat.zero_le _
  past x hx := by
    rw [startOn, List.take_zero] at hx
    cases hx
  queried q hq := by cases hq

lemma told_startOn (C : Setting) (table : MessageTable) : Told C (startOn table) where
  answered q hq := by cases hq
  unanswered _ := ⟨rfl, rfl, Or.inl rfl⟩
  idle _ := ⟨rfl, rfl⟩
  subscribed h := by cases h
  told h := absurd rfl h

lemma recorded_record (h : Recorded st) (hd : x.row.direction = .inbound)
    (hpeer : x.row.peerNodeid = x.row.sender) (hnew : st.table.has x.row.key = false) :
    Recorded { st with
      table := (st.table.insertOrIgnore x.row).1
      log := st.log ++ [x]
      inFlight := st.inFlight ++ [x] } where
  inbox := by rw [inbox_record hd hnew, h.inbox, List.map_append, List.map_singleton]
  fromPeer := forall_mem_snoc h.fromPeer hpeer
  perm := by
    rw [← List.append_assoc]
    exact h.perm.append_right [x]
  openedLog := by
    rw [List.length_append]
    exact Nat.le_add_right_of_le h.openedLog
  openedSent := h.openedSent
  past y hy := by
    rw [List.take_append_of_le_length h.openedLog]
    exact h.past y hy
  queried q hq := by
    rw [List.length_append]
    exact Nat.le_add_right_of_le (h.queried q hq)

lemma recorded_broadcast {i : ℕ} {rx : List Item} (h : Recorded st)
    (hx : st.inFlight[i]? = some x) :
    Recorded { st with inFlight := st.inFlight.eraseIdx i, sent := st.sent ++ [x], rx } where
  inbox := h.inbox
  fromPeer := h.fromPeer
  perm := by
    obtain ⟨hi, rfl⟩ := List.getElem?_eq_some_iff.mp hx
    rw [List.append_assoc]
    exact ((List.getElem_cons_eraseIdx_perm hi).append_left st.sent).trans h.perm
  openedLog := h.openedLog
  openedSent := by
    rw [List.length_append]
    exact Nat.le_add_right_of_le h.openedSent
  past y hy := by
    rw [List.take_append_of_le_length h.openedSent] at hy
    exact h.past y hy
  queried := h.queried

lemma recorded_subscribe (h : Recorded st) {phase : Phase} :
    Recorded { st with phase, openedLog := st.log.length, openedSent := st.sent.length } where
  inbox := h.inbox
  fromPeer := h.fromPeer
  perm := h.perm
  openedLog := le_refl _
  openedSent := le_refl _
  past y hy := by
    rw [List.take_length] at hy ⊢
    exact h.perm.mem_iff.mp (List.mem_append_left _ hy)
  queried := h.queried

lemma recorded_step (h : Recorded st) (hmoves : Moves C st l st') : Recorded st' := by
  cases hmoves with
  | record hx hnew =>
    subst hx
    exact recorded_record h rfl rfl hnew
  | duplicate => exact h
  | broadcast hx => exact recorded_broadcast h hx
  | outbox htable =>
    exact ⟨htable.trans h.inbox, h.fromPeer, h.perm, h.openedLog, h.openedSent, h.past, h.queried⟩
  | subscribe => exact recorded_subscribe h
  | query =>
    refine ⟨h.inbox, h.fromPeer, h.perm, h.openedLog, h.openedSent, h.past, fun q hq => ?_⟩
    exact (Option.some.inj hq).symm.le
  | backlogEnd | write | recv | skip | lag | disconnect =>
    exact ⟨h.inbox, h.fromPeer, h.perm, h.openedLog, h.openedSent, h.past, h.queried⟩

lemma told_record (h : Told C st) (hr : Recorded st) {table : MessageTable} {inFlight : List Item} :
    Told C { st with table, log := st.log ++ [x], inFlight } where
  answered q hq := by
    rw [List.take_append_of_le_length (hr.queried q hq)]
    exact h.answered q hq
  unanswered := h.unanswered
  idle := h.idle
  subscribed := h.subscribed
  told := h.told

lemma heard_broadcast (hr : Recorded st) {inFlight rx : List Item} :
    State.heard { st with inFlight, sent := st.sent ++ [x], rx } = st.heard ++ [x] :=
  List.drop_append_of_le_length hr.openedSent

lemma listens_iff : st.listens = true ↔ st.phase ≠ .idle ∧ st.phase ≠ .closed := by
  simp [State.listens]

lemma told_broadcast (h : Told C st) (hr : Recorded st) {inFlight : List Item} :
    Told C { st with
      inFlight
      sent := st.sent ++ [x]
      rx := if st.listens then st.rx ++ [x] else st.rx } where
  answered := h.answered
  unanswered := h.unanswered
  idle hphase := by
    have hl : ¬ st.listens = true := fun hl => (listens_iff.mp hl).1 hphase
    rw [if_neg hl]
    exact h.idle hphase
  subscribed hphase := by
    obtain ⟨hrx, hq⟩ := h.subscribed hphase
    have hl : st.listens = true := by
      rw [listens_iff, hphase]
      exact ⟨Phase.noConfusion, Phase.noConfusion⟩
    rw [heard_broadcast hr, if_pos hl, hrx]
    exact ⟨rfl, hq⟩
  told hphase := by
    obtain ⟨taken, left, rest, hheard, htold, hopen⟩ := h.told hphase
    refine ⟨taken, left ++ [x], rest, ?_, htold, fun hclosed => ?_⟩
    · rw [heard_broadcast hr, hheard, List.append_assoc]
    · obtain ⟨rfl, hrest⟩ := hopen hclosed
      have hl : st.listens = true := listens_iff.mpr ⟨hphase, hclosed⟩
      rw [if_pos hl]
      exact ⟨rfl, hrest⟩

lemma told_subscribe (h : Told C st) (hphase : st.phase = .idle) :
    Told C { st with
      phase := .subscribed
      openedLog := st.log.length
      openedSent := st.sent.length } := by
  obtain ⟨hrx, hq⟩ := h.idle hphase
  obtain ⟨hbacklog, hemitted, _⟩ := h.unanswered hq
  have hheard : State.heard { st with
      phase := .subscribed
      openedLog := st.log.length
      openedSent := st.sent.length } = [] := List.drop_length
  refine ⟨h.answered, fun _ => ⟨hbacklog, hemitted, Or.inr (Or.inl rfl)⟩, fun hp => (by cases hp),
    fun _ => ⟨hrx.trans hheard.symm, hq⟩, fun _ => ⟨[], [], [], hheard, ?_, fun _ => ⟨hrx.symm, rfl⟩⟩⟩
  rw [hbacklog, hemitted]
  rfl

lemma selected_eq (h : Recorded st) : selected C st.table = (st.log.map Item.row).filter
    fun row => inBacklog C.want C.channel row && after C.sinceMs row := by
  rw [← h.inbox, inbox, List.filter_filter]
  refine List.filter_congr fun row _ => ?_
  cases hd : decide (row.direction = .inbound) with
  | true => rw [Bool.and_true]
  | false => simp [inBacklog, hd]

lemma query_perm (h : Recorded st) (hlimit : (selected C st.table).length ≤ 10000) :
    (query C st.table).Perm ((st.log.map Item.row).filter
      fun row => inBacklog C.want C.channel row && after C.sinceMs row) := by
  have hperm := (C.sorted (selected C st.table)).1
  rw [query, List.take_of_length_le (hperm.length_eq.trans_le hlimit), ← selected_eq h]
  exact hperm

lemma told_query (h : Told C st) (hr : Recorded st) (hphase : st.phase = .subscribed)
    (hlimit : (selected C st.table).length ≤ 10000) :
    Told C { st with
      phase := .write (query C st.table)
      backlog := query C st.table
      queried := some st.log.length } := by
  obtain ⟨hrx, hq⟩ := h.subscribed hphase
  obtain ⟨_, hemitted, _⟩ := h.unanswered hq
  refine ⟨fun q hq => ?_, fun hq => (by cases hq), fun hp => (by cases hp), fun hp => (by cases hp),
    fun _ => ⟨[], st.rx, query C st.table, hrx.symm, ?_, fun _ => ⟨rfl, rfl⟩⟩⟩
  · obtain rfl := Option.some.inj hq
    rw [List.take_length]
    exact query_perm hr hlimit
  · rw [hemitted]
    exact (List.append_nil _).symm

lemma queried_of_phase (h : Told C st) (hidle : st.phase ≠ .idle) (hsub : st.phase ≠ .subscribed)
    (hclosed : st.phase ≠ .closed) : st.queried ≠ none := by
  intro hq
  obtain ⟨_, _, hp | hp | hp⟩ := h.unanswered hq
  · exact hidle hp
  · exact hsub hp
  · exact hclosed hp

lemma told_write {rows : List MessageRow} (h : Told C st) (hphase : st.phase = .write rows)
    {phase : Phase} {emitted : List Item} (hp : phase = .live ∨ ∃ rest, phase = .write rest)
    (hrest : emitted.map Item.row ++ phase.rest = st.emitted.map Item.row ++ rows) :
    Told C { st with phase, emitted } := by
  have hidle : st.phase ≠ .idle := by rw [hphase]; exact Phase.noConfusion
  have hclosed : st.phase ≠ .closed := by rw [hphase]; exact Phase.noConfusion
  have hsub : st.phase ≠ .subscribed := by rw [hphase]; exact Phase.noConfusion
  obtain ⟨taken, left, rest, hheard, htold, hopen⟩ := h.told hidle
  obtain ⟨rfl, rfl⟩ := hopen hclosed
  have hq := queried_of_phase h hidle hsub hclosed
  refine ⟨h.answered, fun hnone => absurd hnone hq, fun hp' => ?_, fun hp' => ?_,
    fun _ => ⟨taken, st.rx, phase.rest, hheard, ?_, fun _ => ⟨rfl, rfl⟩⟩⟩
  · rcases hp with rfl | ⟨rest, rfl⟩
    · cases hp'
    · cases hp'
  · rcases hp with rfl | ⟨rest, rfl⟩
    · cases hp'
    · cases hp'
  · rw [hphase] at htold
    exact hrest.trans htold

lemma told_recv {rest emitted : List Item} (h : Told C st) (hphase : st.phase = .live)
    (hrx : st.rx = x :: rest)
    (hemitted : emitted.map Item.row = st.emitted.map Item.row ++
      ([x].filter fun x => passes C.want C.channel x.event).map Item.row) :
    Told C { st with rx := rest, emitted } := by
  have hidle : st.phase ≠ .idle := by rw [hphase]; exact Phase.noConfusion
  have hclosed : st.phase ≠ .closed := by rw [hphase]; exact Phase.noConfusion
  have hsub : st.phase ≠ .subscribed := by rw [hphase]; exact Phase.noConfusion
  obtain ⟨taken, left, rest', hheard, htold, hopen⟩ := h.told hidle
  obtain ⟨rfl, rfl⟩ := hopen hclosed
  have hq := queried_of_phase h hidle hsub hclosed
  refine ⟨h.answered, fun hnone => absurd hnone hq, fun hp => absurd hp hidle,
    fun hp => absurd hp hsub, fun _ => ⟨taken ++ [x], rest, [], ?_, ?_, fun _ => ⟨rfl, ?_⟩⟩⟩
  · rw [List.append_assoc, List.singleton_append, ← hrx]
    exact hheard
  · have hlive : Phase.live.rest = [] := rfl
    rw [hphase, hlive, List.append_nil] at htold
    rw [List.append_nil, hemitted, htold, List.filter_append, List.map_append, List.append_assoc]
  · exact (congrArg Phase.rest hphase).symm

lemma told_disconnect (h : Told C st) : Told C { st with phase := .closed } where
  answered := h.answered
  unanswered hq := ⟨(h.unanswered hq).1, (h.unanswered hq).2.1, Or.inr (Or.inr rfl)⟩
  idle hp := by cases hp
  subscribed hp := by cases hp
  told _ := by
    by_cases hidle : st.phase = .idle
    · obtain ⟨_, hq⟩ := h.idle hidle
      obtain ⟨hbacklog, hemitted, _⟩ := h.unanswered hq
      refine ⟨[], _, [], rfl, ?_, fun hp => absurd rfl hp⟩
      rw [hbacklog, hemitted]
      rfl
    · obtain ⟨taken, left, rest, hheard, htold, _⟩ := h.told hidle
      exact ⟨taken, left, rest, hheard, htold, fun hp => absurd rfl hp⟩

lemma told_step (h : Told C st) (hr : Recorded st) (hcond : Steady C st l)
    (hmoves : Moves C st l st') : Told C st' := by
  cases hmoves with
  | record => exact told_record h hr
  | duplicate => exact h
  | broadcast => exact told_broadcast h hr
  | outbox => exact ⟨h.answered, h.unanswered, h.idle, h.subscribed, h.told⟩
  | subscribe hphase => exact told_subscribe h hphase
  | query hphase => exact told_query h hr hphase (hcond hphase)
  | backlogEnd hphase => exact told_write h hphase (Or.inl rfl) rfl
  | write hphase =>
    refine told_write h hphase (Or.inr ⟨_, rfl⟩) ?_
    rw [List.map_append, List.append_assoc]
    rfl
  | @recv _ x _ hphase hrx hp =>
    have hkeep : [x].filter (fun x => passes C.want C.channel x.event) = [x] := by simp [hp]
    refine @told_recv C st x _ (st.emitted ++ [x]) h hphase hrx ?_
    rw [List.map_append, hkeep]
  | @skip _ x _ hphase hrx hp =>
    have hdrop : [x].filter (fun x => passes C.want C.channel x.event) = [] := by simp [hp]
    refine @told_recv C st x _ st.emitted h hphase hrx ?_
    rw [hdrop]
    exact (List.append_nil _).symm
  | lag => exact hcond.elim
  | disconnect => exact told_disconnect h

lemma reached {channelId : String → ChannelId} {table : MessageTable} {ls : List Label}
    (hb : Built channelId table)
    (hrun : Run (Guarded (Steady C) (Fires (step C))) (startOn table) ls st) :
    Recorded st ∧ Told C st :=
  hrun.invariant (I := fun st => Recorded st ∧ Told C st)
    (fun _ _ _ hi hs => ⟨recorded_step hi.1 (step_moves hs.2),
      told_step hi.2 hi.1 hs.1 (step_moves hs.2)⟩)
    ⟨recorded_startOn hb, told_startOn C table⟩

lemma nodup_log (h : Recorded st) : (st.log.map Item.row).Nodup := by
  rw [← h.inbox]
  exact (List.Nodup.of_map _ st.table.nodup).filter _

lemma eq_of_row (h : Recorded st) {y : Item} (hx : x ∈ st.log) (hy : y ∈ st.log)
    (hrow : x.row = y.row) : x = y :=
  List.inj_on_of_nodup_map (nodup_log h) hx hy hrow

lemma nodup_heard (h : Recorded st) : (st.heard.map Item.row).Nodup := by
  have hsent : (st.sent.map Item.row).Nodup := by
    have hall := (h.perm.map Item.row).nodup_iff.mpr (nodup_log h)
    rw [List.map_append] at hall
    exact hall.of_append_left
  exact hsent.sublist ((List.drop_sublist _ _).map _)

lemma nodup_backlog (h : Recorded st) (ht : Told C st) : st.backlog.Nodup := by
  cases hq : st.queried with
  | none =>
    rw [(ht.unanswered hq).1]
    exact List.nodup_nil
  | some q =>
    rw [(ht.answered q hq).nodup_iff]
    exact ((nodup_log h).sublist ((List.take_sublist _ _).map _)).filter _

lemma timesEmitted_le (ht : Told C st) (x : Item) :
    timesEmitted st x ≤ st.backlog.count x.row + (st.heard.map Item.row).count x.row := by
  by_cases hidle : st.phase = .idle
  · obtain ⟨_, hq⟩ := ht.idle hidle
    rw [timesEmitted, (ht.unanswered hq).2.1]
    exact Nat.zero_le _
  · obtain ⟨taken, left, rest, hheard, htold, _⟩ := ht.told hidle
    have hcount := congrArg (List.count x.row) htold
    rw [List.count_append, List.count_append] at hcount
    have hsub : ((taken.filter fun x => passes C.want C.channel x.event).map Item.row).Sublist
        (st.heard.map Item.row) := by
      rw [hheard]
      exact (List.filter_sublist.trans (List.sublist_append_left _ _)).map _
    have hle := hsub.count_le x.row
    rw [timesEmitted]
    omega

lemma mem_backlog_iff (ht : Told C st) {q : ℕ} (hq : st.queried = some q) {row : MessageRow} :
    row ∈ st.backlog ↔ (∃ x ∈ st.log.take q, x.row = row) ∧
      inBacklog C.want C.channel row = true ∧ after C.sinceMs row = true := by
  rw [(ht.answered q hq).mem_iff, List.mem_filter, List.mem_map, Bool.and_eq_true]

lemma twice (h : Recorded st) (ht : Told C st) (hx : x ∈ st.log) (htwo : timesEmitted st x = 2) :
    x ∈ st.heard ∧ ∃ q, st.queried = some q ∧ x ∈ st.log.take q := by
  have hle := timesEmitted_le ht x
  have hb := List.nodup_iff_count_le_one.mp (nodup_backlog h ht) x.row
  have hh := List.nodup_iff_count_le_one.mp (nodup_heard h) x.row
  have hbacklog : x.row ∈ st.backlog := List.count_pos_iff.mp (by omega)
  obtain ⟨y, hy, hrow⟩ := List.mem_map.mp
    (List.count_pos_iff.mp (show 0 < (st.heard.map Item.row).count x.row by omega))
  have hylog : y ∈ st.log :=
    h.perm.mem_iff.mp (List.mem_append_left _ (List.mem_of_mem_drop hy))
  refine ⟨eq_of_row h hylog hx hrow ▸ hy, ?_⟩
  cases hq : st.queried with
  | none =>
    rw [(ht.unanswered hq).1] at hbacklog
    cases hbacklog
  | some q =>
    obtain ⟨⟨z, hz, hzrow⟩, _⟩ := (mem_backlog_iff ht hq).mp hbacklog
    exact ⟨q, rfl, eq_of_row h (List.mem_of_mem_take hz) hx hzrow ▸ hz⟩

lemma passes_eq_of_mem (h : Recorded st) (hx : x ∈ st.log) :
    passes C.want C.channel x.event = inBacklog C.want C.channel x.row := by
  have hinbox : x.row ∈ inbox st.table := h.inbox ▸ List.mem_map_of_mem hx
  have hd := of_decide_eq_true (List.mem_filter.mp hinbox).2
  rw [Bool.eq_iff_iff, Item.event, backlogMsg, passes_iff, inBacklog_iff, h.fromPeer x hx]
  exact ⟨fun hp => ⟨hd, hp⟩, fun hp => hp.2⟩

/-- The messages that the subscription owes: those that pass its filter and were recorded before its
query with a stamp after its cutoff, or at any time after it was opened. -/
structure Due (C : Setting) (st : State) (x : Item) : Prop where
  recorded : x ∈ st.log
  passes : passes C.want C.channel x.event = true
  when : (x ∈ st.recordedBeforeQuery ∧ after C.sinceMs x.row = true) ∨
    x ∈ st.recordedAfterSubscription

lemma settled (h : Recorded st) (ht : Told C st) (hdue : Due C st x) (hphase : st.phase = .live)
    (hrx : st.rx = []) (hflight : x ∉ st.inFlight) : 1 ≤ timesEmitted st x := by
  have hidle : st.phase ≠ .idle := by rw [hphase]; exact Phase.noConfusion
  have hclosed : st.phase ≠ .closed := by rw [hphase]; exact Phase.noConfusion
  have hsub : st.phase ≠ .subscribed := by rw [hphase]; exact Phase.noConfusion
  obtain ⟨taken, left, rest, hheard, htold, hopen⟩ := ht.told hidle
  obtain ⟨rfl, rfl⟩ := hopen hclosed
  have hlive : Phase.live.rest = [] := rfl
  rw [hphase, hlive, List.append_nil] at htold
  rw [hrx, List.append_nil] at hheard
  rw [timesEmitted, htold, ← hheard]
  apply List.count_pos_iff.mpr
  apply List.mem_append.mpr
  rcases hdue.when with ⟨hbefore, hafter⟩ | hafter
  · left
    obtain ⟨q, hq⟩ := Option.ne_none_iff_exists'.mp (queried_of_phase ht hidle hsub hclosed)
    rw [State.recordedBeforeQuery, hq] at hbefore
    rw [mem_backlog_iff ht hq, ← passes_eq_of_mem h hdue.recorded]
    exact ⟨⟨x, hbefore, rfl⟩, hdue.passes, hafter⟩
  · right
    refine List.mem_map_of_mem (List.mem_filter.mpr ⟨?_, hdue.passes⟩)
    have hsent : x ∈ st.sent :=
      (List.mem_append.mp (h.perm.mem_iff.mpr hdue.recorded)).resolve_right hflight
    rw [← List.take_append_drop st.openedSent st.sent] at hsent
    refine (List.mem_append.mp hsent).resolve_left fun hpast => ?_
    have hdisjoint := List.nodup_append.mp
      ((List.take_append_drop st.openedLog st.log).symm ▸ List.Nodup.of_map _ (nodup_log h))
    exact hdisjoint.2.2 x (h.past x hpast) x hafter rfl

/-- Nothing more is recorded, and what the query has found or would find stays. -/
structure Keeps (st st' : State) : Prop where
  log : st'.log = st.log
  openedLog : st'.openedLog = st.openedLog
  beforeQuery : st'.recordedBeforeQuery = st.recordedBeforeQuery

lemma Keeps.trans {st'' : State} (h : Keeps st st') (h' : Keeps st' st'') : Keeps st st'' :=
  ⟨h'.log.trans h.log, h'.openedLog.trans h.openedLog, h'.beforeQuery.trans h.beforeQuery⟩

lemma Keeps.due (h : Keeps st st') (hdue : Due C st x) : Due C st' x where
  recorded := h.log ▸ hdue.recorded
  passes := hdue.passes
  when := by
    rw [h.beforeQuery, State.recordedAfterSubscription, h.log, h.openedLog]
    exact hdue.when

lemma flushes (st : State) : ∃ ls st', Run (Guarded (Steady C) (Fires (step C))) st ls st' ∧
    Keeps st st' ∧ st'.inFlight = [] ∧ st'.phase = st.phase ∧ st'.table = st.table := by
  induction hn : st.inFlight.length generalizing st with
  | zero => exact ⟨[], st, .nil, ⟨rfl, rfl, rfl⟩, List.eq_nil_of_length_eq_zero hn, rfl, rfl⟩
  | succ n ih =>
    obtain ⟨y, rest, hflight⟩ := List.exists_cons_of_length_eq_add_one hn
    let next : State := { st with
      inFlight := st.inFlight.eraseIdx 0
      sent := st.sent ++ [y]
      rx := if st.listens then st.rx ++ [y] else st.rx }
    have hstep : step C st (.broadcast 0) = some next := by
      simp only [step, hflight, List.getElem?_cons_zero, next]
    have hlen : next.inFlight.length = n := by
      simp only [next, hflight, List.eraseIdx_cons_zero]
      rw [hflight, List.length_cons] at hn
      exact Nat.succ.inj hn
    obtain ⟨ls, st', hrun, hkeeps, hempty, hphase, htable⟩ := ih next hlen
    have hfirst : Keeps st next := ⟨rfl, rfl, rfl⟩
    exact ⟨.broadcast 0 :: ls, st', .cons ⟨trivial, hstep⟩ hrun, hfirst.trans hkeeps, hempty, hphase,
      htable⟩

/-- How many steps the subscription takes until it waits for the next broadcast. -/
def State.steps (C : Setting) (st : State) : ℕ :=
  st.rx.length + match st.phase with
    | .subscribed => (query C st.table).length + 2
    | .write rows => rows.length + 1
    | _ => 0

lemma runReader_none {fromName : Option String} (h : runReader C st fromName = none)
    (hlistens : st.listens = true) : st.phase = .live ∧ st.rx = [] := by
  obtain ⟨hidle, hclosed⟩ := listens_iff.mp hlistens
  rw [runReader] at h
  split at h
  · next hphase => exact absurd hphase hidle
  · cases h
  · cases h
  · cases h
  · next hphase =>
    split at h
    · next hrx => exact ⟨hphase, hrx⟩
    · split at h
      · cases h
      · cases h
  · next hphase => exact absurd hphase hclosed

lemma runReader_less {fromName : Option String} (h : runReader C st fromName = some st')
    (hq : st.phase = .subscribed → st.queried = none) :
    st'.steps C < st.steps C ∧ st'.listens = true ∧ Keeps st st' ∧ st'.inFlight = st.inFlight ∧
      st'.phase ≠ .subscribed := by
  rw [runReader] at h
  split at h
  · cases h
  · next hphase =>
    obtain rfl := Option.some.inj h
    refine ⟨?_, rfl, ⟨rfl, rfl, ?_⟩, rfl, Phase.noConfusion⟩
    · simp only [State.steps, hphase]
      omega
    · rw [State.recordedBeforeQuery, State.recordedBeforeQuery, hq hphase]
      exact List.take_length
  · next hphase =>
    obtain rfl := Option.some.inj h
    refine ⟨?_, rfl, ⟨rfl, rfl, rfl⟩, rfl, Phase.noConfusion⟩
    simp only [State.steps, hphase]
    omega
  · next hphase =>
    obtain rfl := Option.some.inj h
    refine ⟨?_, rfl, ⟨rfl, rfl, rfl⟩, rfl, Phase.noConfusion⟩
    simp only [State.steps, State.emit, hphase, List.length_cons]
    omega
  · next hphase =>
    have hlive : ∀ {rx emitted}, State.listens { st with rx, emitted } = true := by
      intro rx emitted
      rw [listens_iff, hphase]
      exact ⟨Phase.noConfusion, Phase.noConfusion⟩
    have hsub : st.phase ≠ .subscribed := by rw [hphase]; exact Phase.noConfusion
    split at h
    · cases h
    · next hrx =>
      split at h
      · obtain rfl := Option.some.inj h
        refine ⟨?_, hlive, ⟨rfl, rfl, rfl⟩, rfl, hsub⟩
        simp only [State.steps, State.emit, hphase, hrx, List.length_cons]
        omega
      · obtain rfl := Option.some.inj h
        refine ⟨?_, hlive, ⟨rfl, rfl, rfl⟩, rfl, hsub⟩
        simp only [State.steps, hphase, hrx, List.length_cons]
        omega
  · cases h

/-- Left to itself the subscription gets to the end of its backlog and of its receiver. -/
lemma catches_up (h : Recorded st) (ht : Told C st) (hlistens : st.listens = true)
    (hlimit : st.phase = .subscribed → (selected C st.table).length ≤ 10000) :
    ∃ ls st', Run (Guarded (Steady C) (Fires (step C))) st ls st' ∧ Keeps st st' ∧
      st'.inFlight = st.inFlight ∧ st'.phase = .live ∧ st'.rx = [] := by
  induction hn : st.steps C using Nat.strong_induction_on generalizing st with
  | _ n ih =>
    cases hrun : runReader C st none with
    | none =>
      obtain ⟨hphase, hrx⟩ := runReader_none hrun hlistens
      exact ⟨[], st, .nil, ⟨rfl, rfl, rfl⟩, rfl, hphase, hrx⟩
    | some next =>
      have hstep : step C st (.run none) = some next := hrun
      have hmoves := step_moves hstep
      have hcond : Steady C st (.run none) := hlimit
      obtain ⟨hless, hlistens', hkeeps, hflight, hsub⟩ :=
        runReader_less hrun fun hp => (ht.subscribed hp).2
      obtain ⟨ls, st', hrun', hkeeps', hflight', hphase, hrx⟩ := ih _ (hn ▸ hless)
        (recorded_step h hmoves) (told_step ht h hcond hmoves) hlistens'
        (fun hp => absurd hp hsub) rfl
      exact ⟨.run none :: ls, st', .cons ⟨hcond, hstep⟩ hrun', hkeeps.trans hkeeps',
        hflight'.trans hflight, hphase, hrx⟩

/-- A request whose selector is resolved by a lookup in the peers. -/
def setting (peers : PeerTable) (fault : Option String) (r : Request)
    (channelId : String → ChannelId) (sort : List MessageRow → List MessageRow)
    (sorted : ∀ rows, OrderedBy MessageTable.oldestFirst rows (sort rows)) : Setting :=
  ⟨wantPeer (lookup peers fault) r.peer, r.channel, r.sinceMs, channelId, sort, sorted⟩

def Matches (peers : PeerTable) (fault : Option String) (r : Request) (x : Item) : Prop :=
  Denotes peers fault r.peer x.row.sender ∧ ∀ c, r.channel = some c → x.row.channel = c

/-- A message of the filter that was recorded before the query, with a stamp after the cutoff, or at
any time after the subscription. -/
structure Owed (peers : PeerTable) (fault : Option String) (r : Request) (st : State) (x : Item) :
    Prop where
  recorded : x ∈ st.log
  isMatch : Matches peers fault r x
  when : (x ∈ st.recordedBeforeQuery ∧ after r.sinceMs x.row = true) ∨
    x ∈ st.recordedAfterSubscription

variable {peers : PeerTable} {fault : Option String} {r : Request}

lemma wantPeer_of_denotes {p w : NodeId} (h : Denotes peers fault r.peer p)
    (hw : wantPeer (lookup peers fault) r.peer = some w) : p = w := by
  cases hsel : r.peer with
  | none =>
    rw [hsel] at hw
    cases hw
  | some sel =>
    rw [hsel] at h hw
    cases sel with
    | nodeId n => exact h.trans (Option.some.inj hw)
    | name n =>
      obtain ⟨row, hget, rfl⟩ := h
      rw [wantPeer, lookup, hget] at hw
      exact Option.some.inj hw

lemma passes_of_matches (h : Matches peers fault r x) :
    passes (wantPeer (lookup peers fault) r.peer) r.channel x.event = true := by
  rw [Item.event, backlogMsg, passes_iff]
  exact ⟨fun w hw => wantPeer_of_denotes h.1 hw, h.2⟩

theorem seam_has_no_gap {channelId : String → ChannelId} {sort : List MessageRow → List MessageRow}
    {sorted : ∀ rows, OrderedBy MessageTable.oldestFirst rows (sort rows)} {table : MessageTable}
    {ls : List Label} (hb : Built channelId table)
    (hrun : Run (Guarded (Steady (setting peers fault r channelId sort sorted))
      (Fires (step (setting peers fault r channelId sort sorted)))) (startOn table) ls st)
    (howed : Owed peers fault r st x) :
    timesEmitted st x ≤ 2 ∧
    (timesEmitted st x = 2 → x ∈ st.heard ∧ ∃ q, st.queried = some q ∧ x ∈ st.log.take q) ∧
    (st.phase = .live → st.rx = [] → x ∉ st.inFlight → 1 ≤ timesEmitted st x) ∧
    (st.listens = true → Steady (setting peers fault r channelId sort sorted) st (.run none) →
      ∃ ls' st', Run (Guarded (Steady (setting peers fault r channelId sort sorted))
        (Fires (step (setting peers fault r channelId sort sorted)))) st ls' st' ∧
        1 ≤ timesEmitted st' x) := by
  obtain ⟨h, ht⟩ := reached hb hrun
  have hdue : Due (setting peers fault r channelId sort sorted) st x :=
    ⟨howed.recorded, passes_of_matches howed.isMatch, howed.when⟩
  refine ⟨?_, twice h ht howed.recorded, settled h ht hdue, fun hlistens hlimit => ?_⟩
  · have hle := timesEmitted_le ht x
    have hback := List.nodup_iff_count_le_one.mp (nodup_backlog h ht) x.row
    have hheard := List.nodup_iff_count_le_one.mp (nodup_heard h) x.row
    omega
  · obtain ⟨ls₁, st₁, hrun₁, hkeeps₁, hflight₁, hphase₁, htable₁⟩ := flushes st
    obtain ⟨h₁, ht₁⟩ := reached hb (hrun.append hrun₁)
    have hlistens₁ : st₁.listens = true := by
      rw [State.listens, hphase₁]
      exact hlistens
    obtain ⟨ls₂, st₂, hrun₂, hkeeps₂, hflight₂, hphase₂, hrx₂⟩ := catches_up h₁ ht₁ hlistens₁
      fun hp => htable₁ ▸ hlimit (hphase₁ ▸ hp)
    obtain ⟨h₂, ht₂⟩ := reached hb ((hrun.append hrun₁).append hrun₂)
    refine ⟨ls₁ ++ ls₂, st₂, hrun₁.append hrun₂, ?_⟩
    refine settled h₂ ht₂ ((hkeeps₁.trans hkeeps₂).due hdue) hphase₂ hrx₂ ?_
    rw [hflight₂, hflight₁]
    exact List.not_mem_nil

def bobRequest : Request := ⟨some (.name "bob"), none, none, true⟩

def bobSetting : Setting := setting bobPeers none bobRequest Sample.channelId
  (orderBy MessageTable.oldestFirst) (orderBy_orderedBy _)

def seamRun : List Label :=
  [.subscribe, .record (Sample.node 2) (some "bob") "general" ⟨2, 7, [104, 111]⟩ 8, .run none,
    .broadcast 0, .run none, .run none, .run none, .run none]

def seamItem : Item := ⟨some "bob",
  MessageTable.inboundRow Sample.channelId (Sample.node 2) "general" ⟨2, 7, [104, 111]⟩ 8⟩

theorem seam_has_no_gap_twice : ∃ st, Run (Fires (step bobSetting)) (startOn helloTable) seamRun st ∧
    timesEmitted st seamItem = 2 ∧ seamItem ∈ st.heard ∧ st.queried = some 2 := by
  have heval : (execute (restrict (Steady bobSetting) (step bobSetting)) (startOn helloTable)
      seamRun).map (fun st => (st.log, timesEmitted st seamItem, st.queried,
        decide (seamItem ∈ st.recordedAfterSubscription))) =
      some ([⟨none, helloRow⟩, seamItem], 2, some 2, true) := by
    decide +kernel
  obtain ⟨st, hst, hfacts⟩ := Option.map_eq_some_iff.mp heval
  obtain ⟨hlog, hfacts⟩ := Prod.mk.inj hfacts
  obtain ⟨htwo, hfacts⟩ := Prod.mk.inj hfacts
  obtain ⟨hqueried, hafter⟩ := Prod.mk.inj hfacts
  have hrun := execute_restrict_run hst
  have howed : Owed bobPeers none bobRequest st seamItem := by
    refine ⟨?_, ⟨⟨⟨Sample.node 2, "bob", 1, none, none⟩, rfl, rfl⟩, fun c hc => ?_⟩,
      Or.inr (of_decide_eq_true hafter)⟩
    · rw [hlog]
      exact List.mem_cons_of_mem _ List.mem_cons_self
    · cases hc
  exact ⟨st, hrun.forget, htwo, ((seam_has_no_gap helloTable_built hrun howed).2.1 htwo).1, hqueried⟩

end WalkieTalkie.Inbox
