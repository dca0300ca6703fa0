import WalkieTalkie.Lib.Lines
import WalkieTalkie.Lib.Utf8
import WalkieTalkie.Proto

/-! The stdout of a harness and how it is read. `next_event` drains the complete lines of its buffer,
which it keeps from call to call, and reads another chunk when none of them is an event. The JSON
parser is a parameter. -/

namespace WalkieTalkie.Sessions

open Proto Lib

/-- A JSON value; an object has one value for each of its keys. -/
inductive Json
  | null
  | bool (b : Bool)
  | number (literal : String)
  | string (s : String)
  | array (items : List Json)
  | object (fields : List (String × Json))

namespace Json

def get (key : String) : Json → Option Json
  | .object fields => fields.lookup key
  | _ => none

def asStr : Json → Option String
  | .string s => some s
  | _ => none

def asBool : Json → Option Bool
  | .bool b => some b
  | _ => none

def asArray : Json → Option (List Json)
  | .array items => some items
  | _ => none

end Json

inductive HarnessEvent
  | assistantText (text : String)
  | turnComplete (result : String) (isError : Bool)
  | exited (code : Option Int32)
deriving DecidableEq

def blockText (block : Json) : String :=
  if (block.get "type").bind Json.asStr = some "text" then
    ((block.get "text").bind Json.asStr).getD ""
  else ""

def extractAssistantText (v : Json) : Option String := do
  let message ← v.get "message"
  let content ← message.get "content"
  let blocks ← content.asArray
  return blocks.foldl (fun s block => s ++ blockText block) ""

def parseEvent (fromStr : String → Option Json) (line : String) : Option HarnessEvent := do
  let v ← fromStr line
  match (v.get "type").bind Json.asStr with
  | some "assistant" =>
    let text := (extractAssistantText v).getD ""
    if text = "" then none else some (.assistantText text)
  | some "result" => some (.turnComplete (((v.get "result").bind Json.asStr).getD "")
      (((v.get "is_error").bind Json.asBool).getD false))
  | _ => none

/-- The characters that Unicode counts as white space. -/
def isWhitespace (c : Char) : Bool :=
  (9 ≤ c.toNat && c.toNat ≤ 13) || (0x2000 ≤ c.toNat && c.toNat ≤ 0x200A) ||
    [0x20, 0x85, 0xA0, 0x1680, 0x2028, 0x2029, 0x202F, 0x205F, 0x3000].contains c.toNat

def trim (cs : List Char) : List Char :=
  ((cs.dropWhile isWhitespace).reverse.dropWhile isWhitespace).reverse

def lineEvent (fromStr : String → Option Json) (raw : Bytes) : Option HarnessEvent :=
  let line := trim (Utf8.decodeChars raw)
  if line = [] then none else parseEvent fromStr (String.ofList line)

def newline : UInt8 := 10

def maxLineBytes : ℕ := 16 * 1024 * 1024

inductive Read
  | chunk (bytes : Bytes)
  | closed (code : Option Int32)
  | failed

/-- One round of `next_event`: an event, an error, or nothing yet, and the buffer that stays. -/
def nextEvent (fromStr : String → Option Json) (buf : Bytes) (read : Read) :
    Except String (Option HarnessEvent) × Bytes :=
  match Lines.takeLine newline (lineEvent fromStr) [] buf with
  | (some ev, rest) => (.ok (some ev), rest)
  | (none, rest) =>
    if maxLineBytes < rest.length then
      (.error "harness emitted a line larger than 16777216 bytes", rest)
    else
      match read with
      | .chunk bytes => (.ok none, rest ++ bytes)
      | .closed code => (.ok (some (.exited code)), rest)
      | .failed => (.error "read harness stdout", rest)

/-- The events of the complete lines of a stream. -/
def eventsOf (fromStr : String → Option Json) (stdout : Bytes) : List HarnessEvent :=
  (Lines.lines newline [] stdout).filterMap (lineEvent fromStr)

variable {fromStr : String → Option Json}

lemma parseEvent_ne_exited (line : String) (code : Option Int32) :
    parseEvent fromStr line ≠ some (.exited code) := by
  intro h
  obtain ⟨v, _, h⟩ := Option.bind_eq_some_iff.mp h
  split at h
  · dsimp only at h
    split at h
    · cases h
    · cases h
  · cases h
  · cases h

lemma lineEvent_ne_exited (raw : Bytes) (code : Option Int32) :
    lineEvent fromStr raw ≠ some (.exited code) := by
  intro h
  rw [lineEvent] at h
  split at h
  · cases h
  · exact parseEvent_ne_exited _ code h

lemma eventsOf_append (xs ys : Bytes) : eventsOf fromStr (xs ++ ys) = eventsOf fromStr xs ++
    (Lines.lines newline (Lines.unfinished newline [] xs) ys).filterMap (lineEvent fromStr) := by
  rw [eventsOf, Lines.lines_append, List.filterMap_append]
  rfl

lemma eventsOf_unfinished (xs : Bytes) : eventsOf fromStr (Lines.unfinished newline [] xs) = [] := by
  rw [eventsOf, Lines.lines_unfinished]
  rfl

/-- Every answer that a round of `next_event` can give. -/
inductive Next (fromStr : String → Option Json) (buf : Bytes) (read : Read) :
    Except String (Option HarnessEvent) → Bytes → Prop
  | event {ev rest} (hline : ∀ code, ev ≠ .exited code)
      (hevents : eventsOf fromStr buf = ev :: eventsOf fromStr rest)
      (hunfinished : Lines.unfinished newline [] buf = Lines.unfinished newline [] rest) :
      Next fromStr buf read (.ok (some ev)) rest
  | more {bytes} (hread : read = .chunk bytes) (hnone : eventsOf fromStr buf = []) :
      Next fromStr buf read (.ok none) (Lines.unfinished newline [] buf ++ bytes)
  | closed {code} (hnone : eventsOf fromStr buf = []) :
      Next fromStr buf read (.ok (some (.exited code))) (Lines.unfinished newline [] buf)
  | failed {e} (hnone : eventsOf fromStr buf = []) :
      Next fromStr buf read (.error e) (Lines.unfinished newline [] buf)

lemma nextEvent_next {buf buf' : Bytes} {read : Read} {answer : Except String (Option HarnessEvent)}
    (h : nextEvent fromStr buf read = (answer, buf')) : Next fromStr buf read answer buf' := by
  rw [nextEvent] at h
  split at h
  · next ev rest htake =>
    obtain ⟨rfl, rfl⟩ := Prod.mk.inj h
    obtain ⟨hevents, hunfinished⟩ := Lines.takeLine_some htake
    refine .event (fun code hev => ?_) hevents hunfinished
    have hmem : ev ∈ eventsOf fromStr buf := by
      rw [eventsOf, hevents]
      exact List.mem_cons_self
    obtain ⟨raw, _, hraw⟩ := List.mem_filterMap.mp hmem
    exact lineEvent_ne_exited raw code (hev ▸ hraw)
  · next rest htake =>
    obtain ⟨hnone, rfl⟩ := Lines.takeLine_none htake
    split at h
    · obtain ⟨rfl, rfl⟩ := Prod.mk.inj h
      exact .failed hnone
    · split at h
      · obtain ⟨rfl, rfl⟩ := Prod.mk.inj h
        exact .more rfl hnone
      · obtain ⟨rfl, rfl⟩ := Prod.mk.inj h
        exact .closed hnone
      · obtain ⟨rfl, rfl⟩ := Prod.mk.inj h
        exact .failed hnone

end WalkieTalkie.Sessions
