import WalkieTalkie.Sessions.Harness

/-! Successive calls of `next_event` on one harness. A call drains the lines of the buffer until one
of them is an event, and reads when there is none; its future may be dropped while it waits, for the
read or for the exit of the child, and then only the buffer stays. -/

namespace WalkieTalkie.Sessions

open Proto Lib

/-- What an await of `next_event` comes to. -/
inductive Await
  | chunk (bytes : Bytes)
  | dropped
  | closed (code : Option Int32)
deriving DecidableEq

inductive Outcome
  | returned (answer : Except String HarnessEvent) (buf : Bytes) (awaits : List Await)
  | dropped (buf : Bytes) (awaits : List Await)
  | waiting (buf : Bytes)

def tooLong : String := "harness emitted a line larger than 16777216 bytes"

def callNextEvent (fromStr : String → Option Json) (buf : Bytes) (awaits : List Await) : Outcome :=
  match Lines.takeLine newline (lineEvent fromStr) [] buf with
  | (some ev, rest) => .returned (.ok ev) rest awaits
  | (none, rest) =>
    if maxLineBytes < rest.length then .returned (.error tooLong) rest awaits
    else
      match awaits with
      | [] => .waiting rest
      | .chunk bytes :: awaits => callNextEvent fromStr (rest ++ bytes) awaits
      | .dropped :: awaits => .dropped rest awaits
      | .closed code :: awaits => .returned (.ok (.exited code)) rest awaits

lemma length_takeLine {f : Bytes → Option HarnessEvent} {line xs rest : Bytes} {ev : HarnessEvent}
    (h : Lines.takeLine newline f line xs = (some ev, rest)) : rest.length < xs.length := by
  obtain ⟨front, hne, rfl⟩ := Lines.takeLine_front h
  rw [List.length_append]
  exact Nat.lt_add_of_pos_left (List.length_pos_iff.mpr hne)

variable {fromStr : String → Option Json} {buf rest : Bytes} {awaits left : List Await}

lemma less_of_returned {ev : HarnessEvent}
    (h : callNextEvent fromStr buf awaits = .returned (.ok ev) rest left) :
    left.length < awaits.length ∨ left.length = awaits.length ∧ rest.length < buf.length := by
  fun_induction callNextEvent fromStr buf awaits with
  | case1 buf awaits ev' rest' htake =>
    cases h
    exact Or.inr ⟨rfl, length_takeLine htake⟩
  | case2 => cases h
  | case3 => cases h
  | case4 buf rest' htake hlen bytes awaits ih =>
    have hless := ih h
    rw [List.length_cons]
    omega
  | case5 => cases h
  | case6 buf rest' htake hlen code awaits =>
    cases h
    exact Or.inl (Nat.lt_succ_self _)

lemma less_of_dropped (h : callNextEvent fromStr buf awaits = .dropped rest left) :
    left.length < awaits.length := by
  fun_induction callNextEvent fromStr buf awaits with
  | case1 => cases h
  | case2 => cases h
  | case3 => cases h
  | case4 buf rest' htake hlen bytes awaits ih => exact Nat.lt_succ_of_lt (ih h)
  | case5 buf rest' htake hlen awaits =>
    cases h
    exact Nat.lt_succ_self _
  | case6 => cases h

/-- What the completed calls return, one after the other, until one reports the exit or fails. -/
def successive (fromStr : String → Option Json) (buf : Bytes) (awaits : List Await) :
    List (Except String HarnessEvent) :=
  match h : callNextEvent fromStr buf awaits with
  | .returned (.ok (.exited code)) _ _ => [.ok (.exited code)]
  | .returned (.ok ev) rest left => .ok ev :: successive fromStr rest left
  | .returned (.error e) _ _ => [.error e]
  | .dropped rest left => successive fromStr rest left
  | .waiting _ => []
termination_by (awaits.length, buf.length)
decreasing_by
  · rcases less_of_returned h with hless | ⟨heq, hless⟩
    · exact Prod.Lex.left _ _ hless
    · rw [heq]
      exact Prod.Lex.right _ hless
  · exact Prod.Lex.left _ _ (less_of_dropped h)

/-- The awaits that hand a stream over and end with the exit of the child. -/
inductive Delivers (code : Option Int32) : Bytes → List Await → Prop
  | closed : Delivers code [] [.closed code]
  | chunk {bytes more : Bytes} {awaits : List Await} (hpos : 1 ≤ bytes.length)
      (hle : bytes.length ≤ 8192) (h : Delivers code more awaits) :
      Delivers code (bytes ++ more) (.chunk bytes :: awaits)
  | dropped {more : Bytes} {awaits : List Await} (h : Delivers code more awaits) :
      Delivers code more (.dropped :: awaits)

def ShortRuns (stream : Bytes) : Prop :=
  ∀ run, run <:+: stream → newline ∉ run → run.length ≤ maxLineBytes

/-- What a call comes to on a stream that ends with the exit of the child. -/
inductive Called (fromStr : String → Option Json) (code : Option Int32) (stream : Bytes) :
    Outcome → Prop
  | event {ev : HarnessEvent} {rest more : Bytes} {left : List Await}
      (hline : ∀ code, ev ≠ .exited code) (hd : Delivers code more left)
      (hevents : eventsOf fromStr stream = ev :: eventsOf fromStr (rest ++ more))
      (hs : rest ++ more <:+ stream) : Called fromStr code stream (.returned (.ok ev) rest left)
  | dropped {rest more : Bytes} {left : List Await} (hd : Delivers code more left)
      (hevents : eventsOf fromStr stream = eventsOf fromStr (rest ++ more))
      (hs : rest ++ more <:+ stream) : Called fromStr code stream (.dropped rest left)
  | exited {rest : Bytes} {left : List Await} (hevents : eventsOf fromStr stream = []) :
      Called fromStr code stream (.returned (.ok (.exited code)) rest left)

variable {code : Option Int32} {stream stream' more : Bytes} {outcome : Outcome}

lemma ShortRuns.suffix (h : ShortRuns stream) (hs : stream' <:+ stream) : ShortRuns stream' :=
  fun run hrun hnl => h run (hrun.trans hs.isInfix) hnl

lemma Called.of_suffix (h : Called fromStr code stream' outcome)
    (hevents : eventsOf fromStr stream = eventsOf fromStr stream') (hs : stream' <:+ stream) :
    Called fromStr code stream outcome := by
  cases h with
  | event hline hd hev hs' => exact .event hline hd (hevents.trans hev) (hs'.trans hs)
  | dropped hd hev hs' => exact .dropped hd (hevents.trans hev) (hs'.trans hs)
  | exited hev => exact .exited (hevents.trans hev)

lemma eventsOf_unfinished_append (h : eventsOf fromStr buf = []) (more : Bytes) :
    eventsOf fromStr (buf ++ more) =
      eventsOf fromStr (Lines.unfinished newline [] buf ++ more) := by
  rw [eventsOf_append, eventsOf_append, h, eventsOf_unfinished, Lines.unfinished_unfinished]

lemma eventsOf_takeLine {ev : HarnessEvent}
    (h : Lines.takeLine newline (lineEvent fromStr) [] buf = (some ev, rest)) (more : Bytes) :
    eventsOf fromStr (buf ++ more) = ev :: eventsOf fromStr (rest ++ more) := by
  obtain ⟨hevents, hunfinished⟩ := Lines.takeLine_some h
  have hbuf : eventsOf fromStr buf = ev :: eventsOf fromStr rest := hevents
  rw [eventsOf_append, eventsOf_append, hbuf, hunfinished, List.cons_append]

lemma takeLine_ne_exited
    (h : Lines.takeLine newline (lineEvent fromStr) [] buf = (some (.exited code), rest)) :
    False := by
  have hmem : HarnessEvent.exited code ∈ eventsOf fromStr buf := by
    rw [eventsOf, (Lines.takeLine_some h).1]
    exact List.mem_cons_self
  obtain ⟨raw, _, hraw⟩ := List.mem_filterMap.mp hmem
  exact lineEvent_ne_exited raw code hraw

lemma not_tooLong (h : ShortRuns (buf ++ more)) :
    ¬ maxLineBytes < (Lines.unfinished newline [] buf).length := by
  have hinfix : Lines.unfinished newline [] buf <:+: buf ++ more :=
    (Lines.unfinished_suffix buf).isInfix.trans (List.prefix_append _ _).isInfix
  exact Nat.not_lt.mpr (h _ hinfix (Lines.not_mem_unfinished List.not_mem_nil buf))

lemma called_event {ev : HarnessEvent} (hd : Delivers code more awaits)
    (h : Lines.takeLine newline (lineEvent fromStr) [] buf = (some ev, rest)) :
    Called fromStr code (buf ++ more) (.returned (.ok ev) rest awaits) := by
  obtain ⟨front, _, rfl⟩ := Lines.takeLine_front h
  refine .event (fun code hev => takeLine_ne_exited (hev ▸ h)) hd (eventsOf_takeLine h more) ?_
  rw [List.append_assoc]
  exact List.suffix_append _ _

lemma callNextEvent_called (hd : Delivers code more awaits) (hshort : ShortRuns (buf ++ more)) :
    Called fromStr code (buf ++ more) (callNextEvent fromStr buf awaits) := by
  induction hd generalizing buf with
  | closed =>
    rw [callNextEvent]
    split
    · next htake => exact called_event .closed htake
    · next htake =>
      obtain ⟨hnone, rfl⟩ := Lines.takeLine_none htake
      rw [if_neg (not_tooLong hshort)]
      refine .exited ?_
      rw [List.append_nil]
      exact hnone
  | @chunk bytes more awaits hpos hle h ih =>
    rw [callNextEvent]
    split
    · next htake => exact called_event (.chunk hpos hle h) htake
    · next htake =>
      obtain ⟨hnone, rfl⟩ := Lines.takeLine_none htake
      rw [if_neg (not_tooLong hshort)]
      have hsuffix : Lines.unfinished newline [] buf ++ (bytes ++ more) <:+ buf ++ (bytes ++ more) :=
        List.suffix_append_self_iff.mpr (Lines.unfinished_suffix buf)
      have hcalled := @ih (Lines.unfinished newline [] buf ++ bytes) (by
        rw [List.append_assoc]
        exact hshort.suffix hsuffix)
      rw [List.append_assoc] at hcalled
      exact hcalled.of_suffix (eventsOf_unfinished_append hnone _) hsuffix
  | @dropped more awaits h ih =>
    rw [callNextEvent]
    split
    · next htake => exact called_event (.dropped h) htake
    · next htake =>
      obtain ⟨hnone, rfl⟩ := Lines.takeLine_none htake
      rw [if_neg (not_tooLong hshort)]
      exact .dropped h (eventsOf_unfinished_append hnone _)
        (List.suffix_append_self_iff.mpr (Lines.unfinished_suffix buf))

lemma successive_eq (hd : Delivers code more awaits) (hshort : ShortRuns (buf ++ more)) :
    successive fromStr buf awaits =
      (eventsOf fromStr (buf ++ more)).map .ok ++ [.ok (.exited code)] := by
  have hcalled := @callNextEvent_called fromStr buf awaits code more hd hshort
  fun_induction successive fromStr buf awaits generalizing more with
  | case1 buf awaits c rest left hcall =>
    rw [hcall] at hcalled
    cases hcalled with
    | event hline => exact absurd rfl (hline c)
    | exited hevents =>
      rw [hevents]
      rfl
  | case2 buf awaits ev rest left hne hcall ih =>
    rw [hcall] at hcalled
    cases hcalled with
    | event hline hd' hevents hs =>
      have hshort' := hshort.suffix hs
      rw [ih hd' hshort' (callNextEvent_called hd' hshort'), hevents]
      rfl
    | exited => exact absurd rfl (hne code)
  | case3 buf awaits e rest left hcall =>
    rw [hcall] at hcalled
    cases hcalled
  | case4 buf awaits rest left hcall ih =>
    rw [hcall] at hcalled
    cases hcalled with
    | dropped hd' hevents hs =>
      have hshort' := hshort.suffix hs
      rw [ih hd' hshort' (callNextEvent_called hd' hshort'), hevents]
  | case5 buf awaits rest hcall =>
    rw [hcall] at hcalled
    cases hcalled

/-- The events of a harness do not depend on how its stdout is split, nor on the futures dropped. -/
theorem framing_independent {stdout : Bytes} (hshort : ShortRuns stdout)
    (hd : Delivers code stdout awaits) :
    successive fromStr [] awaits = (eventsOf fromStr stdout).map .ok ++ [.ok (.exited code)] :=
  @successive_eq fromStr [] awaits code stdout hd hshort

/-- A parser that takes every line for the result of a turn. -/
def echoResult (line : String) : Option Json :=
  some (.object [("type", .string "result"), ("result", .string line)])

def accentedStdout : Bytes := [0xC3, 0xA9, 10, 10, 104, 10]

def accentedAwaits : List Await :=
  [.chunk [0xC3], .dropped, .chunk [0xA9, 10, 10, 104], .dropped, .dropped, .chunk [10],
    .closed (some 0)]

theorem framing_independent_accented :
    successive echoResult [] accentedAwaits = [.ok (.turnComplete "é" false),
      .ok (.turnComplete "h" false), .ok (.exited (some 0))] := by
  have hshort : ShortRuns accentedStdout :=
    fun run hrun _ => Nat.le_trans hrun.length_le (by decide)
  have hlast := @Delivers.chunk (some 0) [10] [] _ (by decide) (by decide) .closed
  have hmiddle := @Delivers.chunk (some 0) [0xA9, 10, 10, 104] _ _ (by decide) (by decide)
    hlast.dropped.dropped
  have hd : Delivers (some 0) accentedStdout accentedAwaits :=
    @Delivers.chunk (some 0) [0xC3] _ _ (by decide) (by decide) hmiddle.dropped
  have hevents : eventsOf echoResult accentedStdout =
      [.turnComplete "é" false, .turnComplete "h" false] := by
    decide +kernel
  rw [framing_independent hshort hd, hevents]
  rfl

end WalkieTalkie.Sessions
