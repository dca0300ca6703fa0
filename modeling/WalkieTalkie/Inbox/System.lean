import WalkieTalkie.Inbox.Filter
import WalkieTalkie.Lib.Runs

/-! One `RecvSubscribe` that follows, beside the tasks that handle inbound messages. A task records a
message and then broadcasts it, unless it has been recorded before; the subscription first listens,
then asks for its backlog, writes it row by row and goes on with what it has heard. An item is a row
with the name its sender has in the event. `log` keeps the messages as they were recorded, `sent` as
they were broadcast, and a subscription keeps how far both had come when it was opened and when it
asked for the backlog. -/

namespace WalkieTalkie.Inbox

open Proto Store Lib Lib.Runs Subscription

structure Item where
  fromName : Option String
  row : MessageRow
deriving DecidableEq

def Item.event (x : Item) : IpcEvent := backlogMsg x.fromName x.row

inductive Phase
  | idle
  | subscribed
  | write (rows : List MessageRow)
  | live
  | closed
deriving DecidableEq

structure State where
  table : MessageTable
  log : List Item
  inFlight : List Item
  sent : List Item
  phase : Phase
  rx : List Item
  emitted : List Item
  openedLog : ℕ
  openedSent : ℕ
  queried : Option ℕ
  backlog : List MessageRow

/-- The filter of a request once its selector is resolved, the hash that names channels, and the order
in which the query gives rows of the same time stamp. -/
structure Setting where
  want : Option NodeId
  channel : Option String
  sinceMs : Option UInt64
  channelId : String → ChannelId
  sort : List MessageRow → List MessageRow
  sorted : ∀ rows, OrderedBy MessageTable.oldestFirst rows (sort rows)

inductive Label
  | record (sender : NodeId) (fromName : Option String) (channel : String) (frame : MessageFrame)
      (now : UInt64)
  | broadcast (i : ℕ)
  | enqueue (sender peer : NodeId) (channel : String) (payload : Bytes) (now : UInt64)
  | markDelivered (sender : NodeId) (cid : ChannelId) (seq now : UInt64)
  | subscribe
  | run (fromName : Option String)
  | lag (n : ℕ)
  | disconnect

def inbox (table : MessageTable) : List MessageRow :=
  table.rows.filter fun row => row.direction = .inbound

/-- A daemon that starts on a table: nothing in it is still to be broadcast. -/
def startOn (table : MessageTable) : State :=
  ⟨table, (inbox table).map (Item.mk none), [], (inbox table).map (Item.mk none), .idle, [], [], 0, 0,
    none, []⟩

def selected (C : Setting) (table : MessageTable) : List MessageRow :=
  table.rows.filter fun row => inBacklog C.want C.channel row && after C.sinceMs row

def query (C : Setting) (table : MessageTable) : List MessageRow :=
  (C.sort (selected C table)).take 10000

def State.listens (st : State) : Bool :=
  st.phase ≠ .idle && st.phase ≠ .closed

def State.emit (st : State) (x : Item) : State := { st with emitted := st.emitted ++ [x] }

def runReader (C : Setting) (st : State) (fromName : Option String) : Option State :=
  match st.phase with
  | .idle => none
  | .subscribed =>
    some { st with
      phase := .write (query C st.table)
      backlog := query C st.table
      queried := some st.log.length }
  | .write [] => some { st with phase := .live }
  | .write (row :: rest) => some ({ st with phase := .write rest }.emit ⟨fromName, row⟩)
  | .live =>
    match st.rx with
    | [] => none
    | x :: rest =>
      if passes C.want C.channel x.event then some ({ st with rx := rest }.emit x)
      else some { st with rx := rest }
  | .closed => none

def step (C : Setting) (st : State) : Label → Option State
  | .record sender fromName channel frame now =>
    let x : Item := ⟨fromName, MessageTable.inboundRow C.channelId sender channel frame now⟩
    match st.table.inboxRecord C.channelId sender channel frame now with
    | (table, true) => some { st with table, log := st.log ++ [x], inFlight := st.inFlight ++ [x] }
    | (table, false) => some { st with table }
  | .broadcast i =>
    match st.inFlight[i]? with
    | none => none
    | some x =>
      some { st with
        inFlight := st.inFlight.eraseIdx i
        sent := st.sent ++ [x]
        rx := if st.listens then st.rx ++ [x] else st.rx }
  | .enqueue sender peer channel payload now =>
    match st.table.outboxEnqueue C.channelId sender peer channel payload now with
    | .error _ => some st
    | .ok (table, _) => some { st with table }
  | .markDelivered sender cid seq now =>
    some { st with table := st.table.outboxMarkDelivered sender cid seq now }
  | .subscribe =>
    if st.phase = .idle then
      some { st with
        phase := .subscribed
        openedLog := st.log.length
        openedSent := st.sent.length }
    else none
  | .run fromName => runReader C st fromName
  | .lag n => some { st with rx := st.rx.drop n }
  | .disconnect => if st.listens then some { st with phase := .closed } else none

inductive Moves (C : Setting) (st : State) : Label → State → Prop
  | record {sender fromName channel frame now} {x : Item}
      (hx : x = ⟨fromName, MessageTable.inboundRow C.channelId sender channel frame now⟩)
      (hnew : st.table.has x.row.key = false) :
      Moves C st (.record sender fromName channel frame now)
        { st with
          table := (st.table.insertOrIgnore x.row).1
          log := st.log ++ [x]
          inFlight := st.inFlight ++ [x] }
  | duplicate {sender fromName channel frame now} :
      Moves C st (.record sender fromName channel frame now) st
  | broadcast {i x} (h : st.inFlight[i]? = some x) : Moves C st (.broadcast i)
      { st with
        inFlight := st.inFlight.eraseIdx i
        sent := st.sent ++ [x]
        rx := if st.listens then st.rx ++ [x] else st.rx }
  | outbox {l table} (h : inbox table = inbox st.table) : Moves C st l { st with table }
  | subscribe (h : st.phase = .idle) : Moves C st .subscribe
      { st with
        phase := .subscribed
        openedLog := st.log.length
        openedSent := st.sent.length }
  | query {fromName} (h : st.phase = .subscribed) : Moves C st (.run fromName)
      { st with
        phase := .write (query C st.table)
        backlog := query C st.table
        queried := some st.log.length }
  | backlogEnd {fromName} (h : st.phase = .write []) :
      Moves C st (.run fromName) { st with phase := .live }
  | write {fromName row rest} (h : st.phase = .write (row :: rest)) :
      Moves C st (.run fromName) ({ st with phase := .write rest }.emit ⟨fromName, row⟩)
  | recv {fromName x rest} (h : st.phase = .live) (hrx : st.rx = x :: rest)
      (hp : passes C.want C.channel x.event = true) :
      Moves C st (.run fromName) ({ st with rx := rest }.emit x)
  | skip {fromName x rest} (h : st.phase = .live) (hrx : st.rx = x :: rest)
      (hp : passes C.want C.channel x.event = false) :
      Moves C st (.run fromName) { st with rx := rest }
  | lag {n} : Moves C st (.lag n) { st with rx := st.rx.drop n }
  | disconnect : Moves C st .disconnect { st with phase := .closed }

lemma inbox_outboxEnqueue {t t' : MessageTable} {channelId : String → ChannelId}
    {sender peer : NodeId} {channel : String} {payload : Bytes} {now : UInt64} {row : MessageRow}
    (h : t.outboxEnqueue channelId sender peer channel payload now = .ok (t', row)) :
    inbox t' = inbox t := by
  obtain ⟨hrows, seq, rfl⟩ := MessageTable.outboxEnqueue_ok h
  rw [inbox, hrows, List.filter_append]
  exact List.append_nil _

lemma inbox_outboxMarkDelivered (t : MessageTable) (sender : NodeId) (cid : ChannelId)
    (seq now : UInt64) : inbox (t.outboxMarkDelivered sender cid seq now) = inbox t := by
  have hout : ∀ r : MessageRow, (decide (r.key = (sender, cid, seq)) && decide (r.direction = .out)) =
      true → decide (r.direction = .inbound) = false := by
    intro r hr
    rw [Bool.and_eq_true, decide_eq_true_eq, decide_eq_true_eq] at hr
    rw [hr.2]
    rfl
  exact Table.filter_update_other hout hout

lemma inbox_record {t : MessageTable} {row : MessageRow} (hd : row.direction = .inbound)
    (hnew : t.has row.key = false) : inbox (t.insertOrIgnore row).1 = inbox t ++ [row] := by
  rw [inbox, (Table.insertOrIgnore_of_not_has hnew).1, List.filter_append, inbox]
  simp [hd]

lemma runReader_moves {C : Setting} {st st' : State} {fromName : Option String}
    (h : runReader C st fromName = some st') : Moves C st (.run fromName) st' := by
  rw [runReader] at h
  split at h
  · cases h
  · next hphase =>
    obtain rfl := Option.some.inj h
    exact .query hphase
  · next hphase =>
    obtain rfl := Option.some.inj h
    exact .backlogEnd hphase
  · next hphase =>
    obtain rfl := Option.some.inj h
    exact .write hphase
  · next hphase =>
    split at h
    · cases h
    · next hrx =>
      split at h
      · next hp =>
        obtain rfl := Option.some.inj h
        exact .recv hphase hrx hp
      · next hp =>
        obtain rfl := Option.some.inj h
        exact .skip hphase hrx (by simpa using hp)
  · cases h

lemma step_moves {C : Setting} {st st' : State} {l : Label} (h : step C st l = some st') :
    Moves C st l st' := by
  cases l with
  | record sender fromName channel frame now =>
    let row := MessageTable.inboundRow C.channelId sender channel frame now
    cases hhas : st.table.has row.key with
    | true =>
      have hdup : st.table.inboxRecord C.channelId sender channel frame now = (st.table, false) :=
        Table.insertOrIgnore_of_has hhas
      simp only [step, hdup] at h
      obtain rfl := Option.some.inj h
      exact .duplicate
    | false =>
      have hnew : (st.table.inboxRecord C.channelId sender channel frame now).2 = true :=
        (Table.insertOrIgnore_of_not_has hhas).2
      have hmk : st.table.inboxRecord C.channelId sender channel frame now =
          ((st.table.insertOrIgnore row).1, true) := Prod.ext rfl hnew
      simp only [step, hmk] at h
      obtain rfl := Option.some.inj h
      exact .record rfl hhas
  | broadcast i =>
    simp only [step] at h
    split at h
    · cases h
    · next hx =>
      obtain rfl := Option.some.inj h
      exact .broadcast hx
  | enqueue sender peer channel payload now =>
    simp only [step] at h
    split at h
    · obtain rfl := Option.some.inj h
      exact @Moves.outbox C st _ st.table rfl
    · next henq =>
      obtain rfl := Option.some.inj h
      exact .outbox (inbox_outboxEnqueue henq)
  | markDelivered sender cid seq now =>
    obtain rfl := Option.some.inj h
    exact .outbox (inbox_outboxMarkDelivered ..)
  | subscribe =>
    simp only [step] at h
    split at h
    · next hphase =>
      obtain rfl := Option.some.inj h
      exact .subscribe hphase
    · cases h
  | run fromName => exact runReader_moves h
  | lag n =>
    obtain rfl := Option.some.inj h
    exact .lag
  | disconnect =>
    simp only [step] at h
    split at h
    · obtain rfl := Option.some.inj h
      exact .disconnect
    · cases h

end WalkieTalkie.Inbox
