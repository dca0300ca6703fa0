import WalkieTalkie.Lib.Runs
import WalkieTalkie.Sessions.Harness

/-! The supervisor and its harness over two bounded pipes. The supervisor writes the prompt and then
every pending turn input, line by line, and reads the stdout only between two drains; the harness reads
a line and then writes all of its output before it reads on. Writes are partial and wait while their
pipe is full. -/

namespace WalkieTalkie.Sessions.Pipes

open Proto Lib Lib.Runs

def hexDigit (n : ℕ) : Char := "0123456789abcdef".toList.getD n (Char.ofNat 48)

/-- How a JSON string writes a character. -/
def escapeChar (c : Char) : List Char :=
  match c.toNat with
  | 8 => "\\b".toList
  | 9 => "\\t".toList
  | 10 => "\\n".toList
  | 12 => "\\f".toList
  | 13 => "\\r".toList
  | 34 => "\\\"".toList
  | 92 => "\\\\".toList
  | n => if n < 32 then "\\u00".toList ++ [hexDigit (n / 16), hexDigit (n % 16)] else [c]

def turnHead : List Char := "\x7b\"message\":\x7b\"content\":[\x7b\"text\":\"".toList

def turnTail : List Char :=
  "\",\"type\":\"text\"\x7d],\"role\":\"user\"\x7d,\"type\":\"user\"\x7d".toList

def turnJson (text : String) : List Char :=
  turnHead ++ text.toList.flatMap escapeChar ++ turnTail

/-- The line that `send_turn` writes. -/
def turnLine (text : String) : Bytes :=
  (turnJson text).flatMap String.utf8EncodeChar ++ [newline]

inductive Daemon
  | query
  | feed (queue : List String)
  | sending (rest : Bytes) (queue : List String)
  | select
deriving DecidableEq

inductive Child
  | reading
  | writing (rest : Bytes)
deriving DecidableEq

structure State where
  stdin : Bytes
  stdout : Bytes
  daemon : Daemon
  child : Child
  pending : List String
deriving DecidableEq

structure Capacity where
  stdin : ℕ
  stdout : ℕ

/-- `Harness::spawn` writes the prompt before anything else is done. -/
def spawned (prompt : String) : State :=
  ⟨[], [], if prompt = "" then .query else .sending (turnLine prompt) [], .reading, []⟩

inductive Label
  | arrive (text : String)
  | query
  | begin
  | drained
  | write (n : ℕ)
  | sent
  | read (n : ℕ)
  | wake
  | childRead (n : ℕ)
  | childLine (n : ℕ) (output : Bytes)
  | childWrite (n : ℕ)
  | childDone

def step (C : Capacity) (st : State) : Label → Option State
  | .arrive text => some { st with pending := st.pending ++ [text] }
  | .query =>
    match st.daemon with
    | .query => some { st with daemon := .feed st.pending, pending := [] }
    | _ => none
  | .begin =>
    match st.daemon with
    | .feed (text :: queue) => some { st with daemon := .sending (turnLine text) queue }
    | _ => none
  | .drained =>
    match st.daemon with
    | .feed [] => some { st with daemon := .select }
    | _ => none
  | .write n =>
    match st.daemon with
    | .sending rest queue =>
      if 1 ≤ n ∧ n ≤ rest.length ∧ st.stdin.length + n ≤ C.stdin then
        some { st with
          stdin := st.stdin ++ rest.take n
          daemon := .sending (rest.drop n) queue }
      else none
    | _ => none
  | .sent =>
    match st.daemon with
    | .sending [] queue => some { st with daemon := .feed queue }
    | _ => none
  | .read n =>
    if st.daemon = .select ∧ 1 ≤ n ∧ n ≤ 8192 ∧ n ≤ st.stdout.length then
      some { st with stdout := st.stdout.drop n }
    else none
  | .wake => if st.daemon = .select then some { st with daemon := .query } else none
  | .childRead n =>
    if st.child = .reading ∧ 1 ≤ n ∧ n ≤ st.stdin.length ∧ newline ∉ st.stdin.take n then
      some { st with stdin := st.stdin.drop n }
    else none
  | .childLine n output =>
    if st.child = .reading ∧ newline ∉ st.stdin.take n ∧ st.stdin[n]? = some newline then
      some { st with stdin := st.stdin.drop (n + 1), child := .writing output }
    else none
  | .childWrite n =>
    match st.child with
    | .writing rest =>
      if 1 ≤ n ∧ n ≤ rest.length ∧ st.stdout.length + n ≤ C.stdout then
        some { st with stdout := st.stdout ++ rest.take n, child := .writing (rest.drop n) }
      else none
    | .reading => none
  | .childDone =>
    match st.child with
    | .writing [] => some { st with child := .reading }
    | _ => none

/-- Both sides wait for the other to read. -/
def Deadlock (C : Capacity) (st : State) : Prop :=
  ∃ rest queue output, st.daemon = .sending rest queue ∧ rest ≠ [] ∧ st.stdin.length = C.stdin ∧
    st.child = .writing output ∧ output ≠ [] ∧ st.stdout.length = C.stdout

/-- What is left to write fits into what is left of one of the pipes. -/
def Fits (C : Capacity) (line stdin output stdout : ℕ) : Prop :=
  stdin + line ≤ C.stdin ∨ stdout + output ≤ C.stdout

/-- A line is begun while the harness writes, or an output while the supervisor does, only if one of
the two fits into its pipe. -/
def Roomy (C : Capacity) (st : State) : Label → Prop
  | .begin => ∀ text queue output, st.daemon = .feed (text :: queue) → st.child = .writing output →
      Fits C (turnLine text).length st.stdin.length output.length st.stdout.length
  | .childLine n output => ∀ rest queue, st.daemon = .sending rest queue →
      Fits C rest.length (st.stdin.length - (n + 1)) output.length st.stdout.length
  | _ => True

inductive Moves (C : Capacity) (st : State) : Label → State → Prop
  | arrive {text} : Moves C st (.arrive text) { st with pending := st.pending ++ [text] }
  | query (h : st.daemon = .query) :
      Moves C st .query { st with daemon := .feed st.pending, pending := [] }
  | begin {text queue} (h : st.daemon = .feed (text :: queue)) :
      Moves C st .begin { st with daemon := .sending (turnLine text) queue }
  | drained (h : st.daemon = .feed []) : Moves C st .drained { st with daemon := .select }
  | write {n rest queue} (h : st.daemon = .sending rest queue) (hpos : 1 ≤ n) (hn : n ≤ rest.length)
      (hroom : st.stdin.length + n ≤ C.stdin) :
      Moves C st (.write n)
        { st with stdin := st.stdin ++ rest.take n, daemon := .sending (rest.drop n) queue }
  | sent {queue} (h : st.daemon = .sending [] queue) :
      Moves C st .sent { st with daemon := .feed queue }
  | read {n} (h : st.daemon = .select) (hn : n ≤ st.stdout.length) :
      Moves C st (.read n) { st with stdout := st.stdout.drop n }
  | wake (h : st.daemon = .select) : Moves C st .wake { st with daemon := .query }
  | childRead {n} (h : st.child = .reading) (hn : n ≤ st.stdin.length) :
      Moves C st (.childRead n) { st with stdin := st.stdin.drop n }
  | childLine {n output} (h : st.child = .reading) (hn : n < st.stdin.length) :
      Moves C st (.childLine n output)
        { st with stdin := st.stdin.drop (n + 1), child := .writing output }
  | childWrite {n rest} (h : st.child = .writing rest) (hpos : 1 ≤ n) (hn : n ≤ rest.length)
      (hroom : st.stdout.length + n ≤ C.stdout) :
      Moves C st (.childWrite n)
        { st with stdout := st.stdout ++ rest.take n, child := .writing (rest.drop n) }
  | childDone (h : st.child = .writing []) : Moves C st .childDone { st with child := .reading }

variable {C : Capacity} {st st' : State} {l : Label}

lemma write_moves {n : ℕ} (h : step C st (.write n) = some st') : Moves C st (.write n) st' := by
  simp only [step] at h
  split at h
  · next hd =>
    split at h
    · next hc =>
      obtain rfl := Option.some.inj h
      exact .write hd hc.1 hc.2.1 hc.2.2
    · cases h
  · cases h

lemma read_moves {n : ℕ} (h : step C st (.read n) = some st') : Moves C st (.read n) st' := by
  simp only [step] at h
  split at h
  · next hc =>
    obtain rfl := Option.some.inj h
    exact .read hc.1 hc.2.2.2
  · cases h

lemma childRead_moves {n : ℕ} (h : step C st (.childRead n) = some st') :
    Moves C st (.childRead n) st' := by
  simp only [step] at h
  split at h
  · next hc =>
    obtain rfl := Option.some.inj h
    exact .childRead hc.1 hc.2.2.1
  · cases h

lemma childLine_moves {n : ℕ} {output : Bytes} (h : step C st (.childLine n output) = some st') :
    Moves C st (.childLine n output) st' := by
  simp only [step] at h
  split at h
  · next hc =>
    obtain rfl := Option.some.inj h
    obtain ⟨hn, _⟩ := List.getElem?_eq_some_iff.mp hc.2.2
    exact .childLine hc.1 hn
  · cases h

lemma childWrite_moves {n : ℕ} (h : step C st (.childWrite n) = some st') :
    Moves C st (.childWrite n) st' := by
  simp only [step] at h
  split at h
  · next hd =>
    split at h
    · next hc =>
      obtain rfl := Option.some.inj h
      exact .childWrite hd hc.1 hc.2.1 hc.2.2
    · cases h
  · cases h

lemma step_moves (h : step C st l = some st') : Moves C st l st' := by
  cases l with
  | arrive text =>
    obtain rfl := Option.some.inj h
    exact .arrive
  | query =>
    simp only [step] at h
    split at h
    · next hd =>
      obtain rfl := Option.some.inj h
      exact .query hd
    · cases h
  | begin =>
    simp only [step] at h
    split at h
    · next hd =>
      obtain rfl := Option.some.inj h
      exact .begin hd
    · cases h
  | drained =>
    simp only [step] at h
    split at h
    · next hd =>
      obtain rfl := Option.some.inj h
      exact .drained hd
    · cases h
  | write n => exact write_moves h
  | sent =>
    simp only [step] at h
    split at h
    · next hd =>
      obtain rfl := Option.some.inj h
      exact .sent hd
    · cases h
  | read n => exact read_moves h
  | wake =>
    simp only [step] at h
    split at h
    · next hd =>
      obtain rfl := Option.some.inj h
      exact .wake hd
    · cases h
  | childRead n => exact childRead_moves h
  | childLine n output => exact childLine_moves h
  | childWrite n => exact childWrite_moves h
  | childDone =>
    simp only [step] at h
    split at h
    · next hd =>
      obtain rfl := Option.some.inj h
      exact .childDone hd
    · cases h

structure Bounded (C : Capacity) (st : State) : Prop where
  stdin : st.stdin.length ≤ C.stdin
  stdout : st.stdout.length ≤ C.stdout

lemma bounded_step (h : Bounded C st) (hmoves : Moves C st l st') : Bounded C st' := by
  cases hmoves with
  | arrive | query | begin | drained | sent | wake | childDone => exact ⟨h.stdin, h.stdout⟩
  | write _ _ hn hroom =>
    refine ⟨?_, h.stdout⟩
    rw [List.length_append, List.length_take, Nat.min_eq_left hn]
    exact hroom
  | read =>
    refine ⟨h.stdin, ?_⟩
    rw [List.length_drop]
    exact Nat.sub_le_of_le_add (Nat.le_add_right_of_le h.stdout)
  | childRead | childLine =>
    refine ⟨?_, h.stdout⟩
    rw [List.length_drop]
    exact Nat.sub_le_of_le_add (Nat.le_add_right_of_le h.stdin)
  | childWrite _ _ hn hroom =>
    refine ⟨h.stdin, ?_⟩
    rw [List.length_append, List.length_take, Nat.min_eq_left hn]
    exact hroom

/-- While both sides write, one of them gets to its end. -/
def Apart (C : Capacity) (st : State) : Prop :=
  ∀ rest queue output, st.daemon = .sending rest queue → st.child = .writing output →
    Fits C rest.length st.stdin.length output.length st.stdout.length

lemma apart_step (h : Apart C st) (hcond : Roomy C st l) (hmoves : Moves C st l st') :
    Apart C st' := by
  intro rest' queue' output' hd' hc'
  cases hmoves with
  | arrive => exact h rest' queue' output' hd' hc'
  | query => cases hd'
  | begin hd =>
    obtain ⟨rfl, rfl⟩ := Daemon.sending.inj hd'
    exact hcond _ _ output' hd hc'
  | drained => cases hd'
  | @write n rest queue hd hpos hn hroom =>
    obtain ⟨rfl, rfl⟩ := Daemon.sending.inj hd'
    have hfits := h rest queue output' hd hc'
    rw [Fits] at hfits ⊢
    dsimp only
    rw [List.length_append, List.length_take, List.length_drop]
    omega
  | sent => cases hd'
  | read hd =>
    rw [hd] at hd'
    cases hd'
  | wake => cases hd'
  | childRead hc =>
    rw [hc] at hc'
    cases hc'
  | @childLine n output hc hn =>
    obtain rfl := Child.writing.inj hc'
    have hfits := hcond rest' queue' hd'
    rwa [← List.length_drop] at hfits
  | @childWrite n rest hc hpos hn hroom =>
    obtain rfl := Child.writing.inj hc'
    have hfits := h rest' queue' rest hd' hc
    rw [Fits] at hfits ⊢
    dsimp only
    rw [List.length_append, List.length_take, List.length_drop]
    omega
  | childDone => cases hc'

lemma reached {prompt : String} {ls : List Label}
    (hrun : Run (Guarded (Roomy C) (Fires (step C))) (spawned prompt) ls st) :
    Bounded C st ∧ Apart C st :=
  hrun.invariant (I := fun st => Bounded C st ∧ Apart C st)
    (fun _ _ _ hi hs => ⟨bounded_step hi.1 (step_moves hs.2),
      apart_step hi.2 hs.1 (step_moves hs.2)⟩)
    ⟨⟨Nat.zero_le _, Nat.zero_le _⟩, fun _ _ _ _ hc => (by cases hc)⟩

lemma not_deadlock (h : Apart C st) : ¬ Deadlock C st := by
  rintro ⟨rest, queue, output, hd, hrest, hstdin, hc, houtput, hstdout⟩
  have hfits := h rest queue output hd hc
  have hpos := List.length_pos_iff.mpr hrest
  have hpos' := List.length_pos_iff.mpr houtput
  rw [Fits] at hfits
  omega

lemma fills_stdin {rest : Bytes} {queue : List String} (hb : Bounded C st)
    (hd : st.daemon = .sending rest queue) (hover : C.stdin < st.stdin.length + rest.length) :
    ∃ ls rest', Run (Fires (step C)) st ls
      { st with stdin := st.stdin ++ rest.take (C.stdin - st.stdin.length), daemon := .sending rest' queue } ∧
      rest' ≠ [] := by
  have hle := hb.stdin
  have hne : rest.drop (C.stdin - st.stdin.length) ≠ [] := by
    rw [← List.length_pos_iff, List.length_drop]
    omega
  by_cases hfull : C.stdin - st.stdin.length = 0
  · refine ⟨[], rest, ?_, ?_⟩
    · rw [hfull, List.take_zero, List.append_nil, ← hd]
      exact .nil
    · rwa [hfull, List.drop_zero] at hne
  · refine ⟨[.write (C.stdin - st.stdin.length)], _, .single ?_, hne⟩
    rw [Fires, step, hd]
    exact if_pos ⟨by omega, by omega, by omega⟩

lemma fills_stdout {output : Bytes} (hb : Bounded C st) (hc : st.child = .writing output)
    (hover : C.stdout < st.stdout.length + output.length) :
    ∃ ls output', Run (Fires (step C)) st ls
      { st with stdout := st.stdout ++ output.take (C.stdout - st.stdout.length), child := .writing output' } ∧
      output' ≠ [] := by
  have hle := hb.stdout
  have hne : output.drop (C.stdout - st.stdout.length) ≠ [] := by
    rw [← List.length_pos_iff, List.length_drop]
    omega
  by_cases hfull : C.stdout - st.stdout.length = 0
  · refine ⟨[], output, ?_, ?_⟩
    · rw [hfull, List.take_zero, List.append_nil, ← hc]
      exact .nil
    · rwa [hfull, List.drop_zero] at hne
  · refine ⟨[.childWrite (C.stdout - st.stdout.length)], _, .single ?_, hne⟩
    rw [Fires, step, hc]
    exact if_pos ⟨by omega, by omega, by omega⟩

lemma deadlock_of_overflow {rest output : Bytes} {queue : List String} (hb : Bounded C st)
    (hd : st.daemon = .sending rest queue) (hc : st.child = .writing output)
    (hover : ¬ Fits C rest.length st.stdin.length output.length st.stdout.length) :
    ∃ ls st', Run (Fires (step C)) st ls st' ∧ Deadlock C st' := by
  obtain ⟨hin, hout⟩ := not_or.mp hover
  have hlein := hb.stdin
  have hleout := hb.stdout
  obtain ⟨ls, rest', hrun, hrest⟩ := fills_stdin hb hd (by omega)
  obtain ⟨ls', output', hrun', houtput⟩ := @fills_stdout C
    { st with stdin := st.stdin ++ rest.take (C.stdin - st.stdin.length), daemon := .sending rest' queue }
    output ⟨by rw [List.length_append, List.length_take]; omega, hleout⟩ hc
    (show C.stdout < st.stdout.length + output.length by omega)
  refine ⟨ls ++ ls', _, hrun.append hrun', rest', queue, output', rfl, hrest, ?_, rfl, houtput, ?_⟩
  · rw [List.length_append, List.length_take]
    omega
  · dsimp only
    rw [List.length_append, List.length_take]
    omega

lemma overflow_of_not_roomy (h : step C st l = some st') (hcond : ¬ Roomy C st l) :
    ∃ rest queue output, st'.daemon = .sending rest queue ∧ st'.child = .writing output ∧
      ¬ Fits C rest.length st'.stdin.length output.length st'.stdout.length := by
  cases step_moves h with
  | begin hd =>
    simp only [Roomy, not_forall] at hcond
    obtain ⟨text, queue, output, hd', hc, hover⟩ := hcond
    rw [hd] at hd'
    obtain ⟨rfl, rfl⟩ := List.cons.inj (Daemon.feed.inj hd')
    exact ⟨_, _, output, rfl, hc, hover⟩
  | childLine hc hn =>
    simp only [Roomy, not_forall] at hcond
    obtain ⟨rest, queue, hd, hover⟩ := hcond
    rw [← List.length_drop] at hover
    exact ⟨rest, queue, _, hd, rfl, hover⟩
  | arrive | query | drained | write | sent | read | wake | childRead | childWrite | childDone =>
    exact absurd trivial hcond

theorem no_deadlock_while_roomy {prompt : String} {ls : List Label}
    (hrun : Run (Guarded (Roomy C) (Fires (step C))) (spawned prompt) ls st) :
    ¬ Deadlock C st ∧ ∀ l st', step C st l = some st' → ¬ Roomy C st l →
      ∃ ls' st'', Run (Fires (step C)) st' ls' st'' ∧ Deadlock C st'' := by
  obtain ⟨hb, ha⟩ := reached hrun
  refine ⟨not_deadlock ha, fun l st' hstep hcond => ?_⟩
  obtain ⟨rest, queue, output, hd, hc, hover⟩ := overflow_of_not_roomy hstep hcond
  exact deadlock_of_overflow (bounded_step hb (step_moves hstep)) hd hc hover

lemma le_length_flatMap {α β : Type} {f : α → List β} (h : ∀ a, 1 ≤ (f a).length) (xs : List α) :
    xs.length ≤ (xs.flatMap f).length := by
  induction xs with
  | nil => exact Nat.le_refl _
  | cons x xs ih =>
    have hx := h x
    rw [List.flatMap_cons, List.length_append, List.length_cons]
    omega

lemma length_escapeChar (c : Char) : 1 ≤ (escapeChar c).length := by
  unfold escapeChar
  split
  all_goals first | decide | skip
  split
  · simp
  · exact Nat.le_refl _

lemma length_utf8EncodeChar (c : Char) : 1 ≤ (String.utf8EncodeChar c).length := by
  rw [String.length_utf8EncodeChar]
  exact Char.utf8Size_pos c

lemma length_lt_turnLine (text : String) : text.toList.length < (turnLine text).length := by
  have hbytes := le_length_flatMap length_utf8EncodeChar (turnJson text)
  have hchars := le_length_flatMap length_escapeChar text.toList
  have hjson : (text.toList.flatMap escapeChar).length ≤ (turnJson text).length := by
    rw [turnJson, List.length_append, List.length_append]
    omega
  rw [turnLine, List.length_append, List.length_singleton]
  omega

def pipe64 : Capacity := ⟨65536, 65536⟩

lemma first_input (next : String) (output : Bytes) :
    ∃ ls, Run (Guarded (Roomy pipe64) (Fires (step pipe64))) (spawned "") ls
      ⟨[], [], .feed [next], .writing output, []⟩ := by
  have hpos : 1 ≤ (turnLine "go").length := by decide +kernel
  have hroom : ([] : Bytes).length + (turnLine "go").length ≤ 65536 := by decide +kernel
  have hfirst : newline ∉ (turnLine "go").take ((turnLine "go").length - 1) := by decide +kernel
  have hlast : (turnLine "go")[(turnLine "go").length - 1]? = some newline := by decide +kernel
  have hquery : Run (Guarded (Roomy pipe64) (Fires (step pipe64))) (spawned "")
      [.query, .drained, .arrive "go", .arrive next, .wake, .query]
      ⟨[], [], .feed ["go", next], .reading, []⟩ :=
    .cons ⟨trivial, rfl⟩ (.cons ⟨trivial, rfl⟩ (.cons ⟨trivial, rfl⟩ (.cons ⟨trivial, rfl⟩
      (.cons ⟨trivial, rfl⟩ (.cons ⟨trivial, rfl⟩ .nil)))))
  have hbegin : Roomy pipe64 ⟨[], [], .feed ["go", next], .reading, []⟩ .begin :=
    fun _ _ _ _ hc => (by cases hc)
  have hwrite : step pipe64 ⟨[], [], .sending (turnLine "go") [next], .reading, []⟩
      (.write (turnLine "go").length) =
      some ⟨turnLine "go", [], .sending [] [next], .reading, []⟩ := by
    simp only [step, pipe64, if_pos (And.intro hpos (And.intro (Nat.le_refl _) hroom)),
      List.take_length, List.drop_length, List.nil_append]
  have hline : step pipe64 ⟨turnLine "go", [], .feed [next], .reading, []⟩
      (.childLine ((turnLine "go").length - 1) output) =
      some ⟨[], [], .feed [next], .writing output, []⟩ := by
    simp only [step, hfirst, hlast, not_false_eq_true, and_self, if_true]
    rw [Nat.sub_add_cancel hpos, List.drop_length]
  have hturn : Run (Guarded (Roomy pipe64) (Fires (step pipe64)))
      ⟨[], [], .feed ["go", next], .reading, []⟩
      [.begin, .write (turnLine "go").length, .sent, .childLine ((turnLine "go").length - 1) output]
      ⟨[], [], .feed [next], .writing output, []⟩ :=
    .cons ⟨hbegin, rfl⟩ (.cons ⟨trivial, hwrite⟩ (.cons ⟨trivial, rfl⟩
      (.cons ⟨fun _ _ hd => (by cases hd), hline⟩ .nil)))
  exact ⟨_, hquery.append hturn⟩

theorem no_deadlock_while_roomy_short : ∃ ls st,
    Run (Guarded (Roomy pipe64) (Fires (step pipe64))) (spawned "") ls st ∧
    st.daemon = .sending (turnLine "go on") [] ∧ st.child = .writing [104, 105, 10] ∧
    ¬ Deadlock pipe64 st := by
  obtain ⟨ls, hrun⟩ := first_input "go on" [104, 105, 10]
  have hroomy : Roomy pipe64 ⟨[], [], .feed ["go on"], .writing [104, 105, 10], []⟩ .begin := by
    intro text queue output _ hc
    obtain rfl := Child.writing.inj hc
    exact Or.inr (by decide)
  have hrun' := hrun.append (.single ⟨hroomy, rfl⟩)
  exact ⟨_, _, hrun', rfl, rfl, (no_deadlock_while_roomy hrun').1⟩

lemma deadlock_of_long {big : String} {output : Bytes} (hbig : 65536 ≤ big.toList.length)
    (houtput : 65536 < output.length) :
    ∃ ls st, Run (Fires (step pipe64)) (spawned "") ls st ∧ Deadlock pipe64 st := by
  obtain ⟨ls, hrun⟩ := first_input big output
  have hbegin : Run (Fires (step pipe64)) (spawned "") (ls ++ [.begin])
      ⟨[], [], .sending (turnLine big) [], .writing output, []⟩ := hrun.forget.append (.single rfl)
  have hover : ¬ Fits pipe64 (turnLine big).length ([] : Bytes).length output.length
      ([] : Bytes).length := by
    have hline := length_lt_turnLine big
    simp only [Fits, pipe64, List.length_nil]
    omega
  obtain ⟨ls', st, hrun', hdead⟩ := @deadlock_of_overflow pipe64
    ⟨[], [], .sending (turnLine big) [], .writing output, []⟩ _ _ _
    ⟨Nat.zero_le _, Nat.zero_le _⟩ rfl rfl hover
  exact ⟨_, st, hbegin.append hrun', hdead⟩

theorem supervisor_and_harness_deadlock :
    ∃ ls st, Run (Fires (step pipe64)) (spawned "") ls st ∧ Deadlock pipe64 st := by
  refine @deadlock_of_long (String.ofList (List.replicate 65536 (Char.ofNat 97)))
    (List.replicate 65537 97) ?_ ?_
  · exact Nat.le_of_eq (by rw [String.toList_ofList, List.length_replicate])
  · rw [List.length_replicate]
    exact Nat.lt_succ_self _

end WalkieTalkie.Sessions.Pipes
