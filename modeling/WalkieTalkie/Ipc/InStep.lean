import WalkieTalkie.Ipc.Commands

/-! A command reads the reply to its request to the end and no further, as long as every frame is within
the limit of the readers; so what follows on the connection is the reply to the next request. -/

namespace WalkieTalkie.Ipc

open Proto Store Lib
open Delivery.Drain (maxIpcFrameBytes)

lemma readFrame_whole {bytes : ℕ} (h : bytes ≤ maxIpcFrameBytes) : readFrame bytes = .whole := by
  rw [maxIpcFrameBytes] at h
  have hlen : bytes % 2 ^ 32 = bytes := Nat.mod_eq_of_lt (by omega)
  rw [readFrame, hlen, if_neg (by rw [maxIpcFrameBytes]; omega), if_neg (Nat.lt_irrefl bytes)]

lemma readEvent_fits {ev : IpcEvent} (h : Fits ev.encode) (rest : List IpcEvent) :
    readEvent (ev :: rest) = some (.ok ev, rest) := by
  rw [readEvent, readFrame_whole h]

lemma bind_readEvent {α : Type} {ev : IpcEvent} (h : Fits ev.encode) (f : IpcEvent → Reader α)
    (rest : List IpcEvent) : (readEvent >>= f) (ev :: rest) = f ev rest :=
  bind_ok (readEvent_fits h rest) f

/-- A reader takes a reply of a shape whole, whatever comes after it. -/
def Reads (sh : Shape) (r : Reader (List IpcEvent)) : Prop :=
  ∀ w, sh.Accepts w → (∀ ev ∈ w, Fits ev.encode) → ∃ out, ∀ rest, r (w ++ rest) = some (out, rest)

/-- A reader that leaves the stream as it is. -/
def Rests (r : Reader (List IpcEvent)) : Prop := ∃ out, ∀ s, r s = some (out, s)

lemma rests_pure (evs : List IpcEvent) : Rests (pure evs) := ⟨.ok evs, fun _ => rfl⟩

lemma rests_bail (e : CliError) : Rests (bail e) := ⟨.error e, fun _ => rfl⟩

lemma reads_single {reply : IpcEvent → Bool} {f : IpcEvent → Reader (List IpcEvent)}
    (hf : ∀ ev, Rests (f ev)) : Reads (.single reply) (readEvent >>= f) := by
  rintro w ⟨ev, rfl, -⟩ hfits
  obtain ⟨out, hout⟩ := hf ev
  refine ⟨out, fun rest => ?_⟩
  rw [List.singleton_append, bind_readEvent (hfits ev (List.mem_singleton_self ev))]
  exact hout rest

lemma reads_reply {reply : IpcEvent → Bool} (wanted : IpcEvent → Bool) :
    Reads (.single reply) (readReply wanted) := by
  refine reads_single fun ev => ?_
  split
  · exact rests_pure _
  · exact rests_bail _

lemma reads_tokenGrant {reply : IpcEvent → Bool} (text : TokenText) :
    Reads (.single reply) (cmdTokenGrant text) := by
  refine reads_single fun ev => ?_
  split
  · split
    · exact rests_pure _
    · exact rests_bail _
  · exact rests_bail _

lemma reads_chatReply {reply : IpcEvent → Bool} : Reads (.single reply) chatReply :=
  reads_single fun _ => rests_pure _

lemma reads_coordinatorReply {reply : IpcEvent → Bool} : Reads (.single reply) coordinatorReply := by
  refine reads_single fun ev => ?_
  split
  · exact rests_pure _
  · exact rests_pure _
  · exact rests_bail _

section Listing

variable {item : IpcEvent → Bool} {last : IpcEvent}

lemma readListing_cons {ev : IpcEvent} (h : Fits ev.encode) (rest : List IpcEvent) :
    readListing item last (ev :: rest) =
      if item ev then
        (readListing item last rest).map fun (out, left) => (out.map fun evs => ev :: evs, left)
      else if ev = last then some (.ok [], rest)
      else some (.error (refused ev), rest) := by
  rw [readListing, readEvent_fits h]

lemma readListing_end {ev : IpcEvent} (h : Fits ev.encode) (hev : item ev = false) :
    ∃ out, ∀ rest, readListing item last (ev :: rest) = some (out, rest) := by
  by_cases hlast : ev = last
  · exact ⟨.ok [], fun rest => by rw [readListing_cons h, hev, if_neg Bool.false_ne_true, if_pos hlast]⟩
  · exact ⟨_, fun rest => by rw [readListing_cons h, hev, if_neg Bool.false_ne_true, if_neg hlast]⟩

lemma reads_listing (hlast : item last = false) (herr : ∀ e, item (.err e) = false) :
    Reads (.listing item last) (readListing item last) := by
  rintro w ⟨items, ev, rfl, hitems, hev⟩ hfits
  have hstop : item ev = false := by
    rcases hev with rfl | ⟨e, rfl⟩
    · exact hlast
    · exact herr e
  induction items with
  | nil => exact readListing_end (hfits ev (List.mem_singleton_self ev)) hstop
  | cons i items ih =>
    obtain ⟨out, hout⟩ := ih (fun j hj => hitems j (List.mem_cons_of_mem i hj))
      fun ev' hev' => hfits ev' (List.mem_cons_of_mem i hev')
    refine ⟨out.map fun evs => i :: evs, fun rest => ?_⟩
    rw [List.cons_append, List.cons_append, readListing_cons (hfits i List.mem_cons_self),
      if_pos (hitems i List.mem_cons_self), hout rest]
    rfl

end Listing

lemma reads_tokenImport : Reads .imported cmdTokenImport := by
  rintro w (⟨info, rfl⟩ | ⟨e, rfl⟩) hfits
  · refine ⟨.ok [.tokenListItem info], fun rest => ?_⟩
    have hok : expectOk (.ok :: rest) = some (.ok [.ok], rest) := by
      rw [expectOk, readReply, bind_readEvent (hfits _ (List.mem_cons_of_mem _ List.mem_cons_self))]
      rfl
    rw [List.cons_append, cmdTokenImport, bind_readEvent (hfits _ List.mem_cons_self)]
    exact bind_ok hok _
  · refine ⟨.error (.ipc e), fun rest => ?_⟩
    rw [List.singleton_append, cmdTokenImport, bind_readEvent (hfits _ List.mem_cons_self)]
    rfl

lemma readers_read {text : TokenText} {req : IpcRequest} {r : Reader (List IpcEvent)}
    (hr : r ∈ readers text req) : Reads (shape req) r := by
  cases req with
  | connClose selector => cases hr
  | peerList filter => exact List.mem_singleton.mp hr ▸ reads_listing rfl fun _ => rfl
  | connList => exact List.mem_singleton.mp hr ▸ reads_listing rfl fun _ => rfl
  | tokenList => exact List.mem_singleton.mp hr ▸ reads_listing rfl fun _ => rfl
  | groupList => exact List.mem_singleton.mp hr ▸ reads_listing rfl fun _ => rfl
  | sessionList group => exact List.mem_singleton.mp hr ▸ reads_listing rfl fun _ => rfl
  | agentList group session => exact List.mem_singleton.mp hr ▸ reads_listing rfl fun _ => rfl
  | tokenGrant peer caps ttlSecs => exact List.mem_singleton.mp hr ▸ reads_tokenGrant text
  | tokenImport raw => exact List.mem_singleton.mp hr ▸ reads_tokenImport
  | send peer channel payload =>
    rcases List.mem_pair.mp hr with rfl | rfl
    · exact reads_reply _
    · exact reads_chatReply
  | spawn token args =>
    rcases List.mem_pair.mp hr with rfl | rfl
    · exact reads_reply _
    · exact reads_coordinatorReply
  | _ => exact List.mem_singleton.mp hr ▸ reads_reply _

/-- The reply that was written for a request is a reply to it, and the command took all of it and
nothing else. -/
def Exchange.InStep (x : Exchange) : Prop :=
  (shape x.req).Accepts x.written ∧ x.reader x.written = some (x.outcome, [])

section Conversations

variable {σ : Type} (D : Daemon σ) {text : TokenText}

lemma command_reads_reply {req : IpcRequest} {r : Reader (List IpcEvent)} (hr : r ∈ readers text req)
    (s : σ) (hfits : ∀ ev ∈ (handleRequest D req s).1, Fits ev.encode) :
    ∃ out, ∀ rest, r ((handleRequest D req s).1 ++ rest) = some (out, rest) :=
  readers_read hr _ (handleRequest_accepts D req s) hfits

lemma converse_exchange {req : IpcRequest} {reader : Reader (List IpcEvent)}
    {next : Except CliError (List IpcEvent) → Conversation} {s : σ} {pending rest : List IpcEvent}
    {out : Except CliError (List IpcEvent)} (hreq : Fits req.encode)
    (hread : reader (pending ++ (handleRequest D req s).1) = some (out, rest)) :
    converse D (.exchange req reader next) s pending =
      (converse D (next out) (handleRequest D req s).2 rest).map fun (xs, left) =>
        (⟨req, reader, (handleRequest D req s).1, out⟩ :: xs, left) := by
  rw [converse, if_pos (readFrame_whole hreq)]
  rcases hw : handleRequest D req s with ⟨w, s'⟩
  rw [hw] at hread
  simp only [hread]

lemma converse_in_step (c : Conversation) (s : σ) (hc : c.ByCommands text) (hfits : c.FramesFit D s) :
    ∃ xs s', converse D c s [] = some (xs, [], s') ∧ ∀ x ∈ xs, x.InStep := by
  induction c generalizing s with
  | done => exact ⟨[], s, rfl, fun _ hx => (by cases hx)⟩
  | exchange req reader next ih =>
    obtain ⟨hr, hnext⟩ := hc
    obtain ⟨hreq, hevs, hrest⟩ := hfits
    obtain ⟨out, hout⟩ := command_reads_reply D hr s hevs
    have hread := hout []
    rw [List.append_nil] at hread
    obtain ⟨xs, s', hxs, hall⟩ := ih out _ (hnext out) (hrest out [] hread)
    refine ⟨⟨req, reader, (handleRequest D req s).1, out⟩ :: xs, s', ?_, ?_⟩
    · rw [converse_exchange D hreq hread, hxs]
      rfl
    · intro x hx
      rcases List.mem_cons.mp hx with rfl | hx
      · exact ⟨handleRequest_accepts D req s, hread⟩
      · exact hall x hx

lemma cmdGroupNew_byCommands (name cwd : String) (resolveFsMode : Except String FsMode) :
    (cmdGroupNew name cwd resolveFsMode).ByCommands text := by
  refine ⟨List.mem_singleton_self _, fun out => ?_⟩
  dsimp only
  split
  · split
    · exact trivial
    · exact ⟨List.mem_pair.mpr (Or.inr rfl), fun _ => trivial⟩
  · exact trivial

lemma cmdChat_byCommands (peer : PeerSelector) (channel : String) (lines : List Bytes) :
    (cmdChat peer channel lines).ByCommands text := by
  induction lines with
  | nil => exact trivial
  | cons payload lines ih =>
    refine ⟨List.mem_pair.mpr (Or.inr rfl), fun out => ?_⟩
    cases out with
    | error e => exact trivial
    | ok evs => exact ih

end Conversations

/-- Whatever the operations of the daemon answer, it writes a reply to every request; the command that
made the request reads that reply whole and nothing after it, when the frames are within the limit, and
so do the requests of a conversation, one after the other. -/
theorem requests_and_replies_in_step {σ : Type} (D : Daemon σ) (text : TokenText) :
    (∀ req s, (shape req).Accepts (handleRequest D req s).1) ∧
    (∀ req s, ∀ r ∈ readers text req, (∀ ev ∈ (handleRequest D req s).1, Fits ev.encode) →
      ∃ out, ∀ rest, r ((handleRequest D req s).1 ++ rest) = some (out, rest)) ∧
    (∀ name cwd resolveFsMode, (cmdGroupNew name cwd resolveFsMode).ByCommands text) ∧
    (∀ peer channel lines, (cmdChat peer channel lines).ByCommands text) ∧
    ∀ (c : Conversation) (s : σ), c.ByCommands text → c.FramesFit D s →
      ∃ xs s', converse D c s [] = some (xs, [], s') ∧ ∀ x ∈ xs, x.InStep :=
  ⟨handleRequest_accepts D, fun _ s _ hr => command_reads_reply D hr s, cmdGroupNew_byCommands,
    cmdChat_byCommands, converse_in_step D⟩

instance (body : Bytes) : Decidable (Fits body) := inferInstanceAs (Decidable (_ ≤ _))

/-- A daemon that makes groups and whose children do not start. -/
def newborn : Daemon Unit where
  nodeid := Sample.node 1
  version := "0.3.0"
  localTicket s := (.error "no endpoint", s)
  peerAdd _ _ _ s := (.ok (), s)
  peerRemove _ s := (.ok 0, s)
  peerList s := (.ok [], s)
  peerGet _ s := (.ok none, s)
  listConns s := ([], s)
  lanPeers s := ([], s)
  signToken _ _ _ s := (.error "no key", s)
  tokenRow _ _ s := (.error "no token", s)
  encodeToken _ s := (.error "no token", s)
  decodeToken _ := .error "no token"
  verifySignedClaims _ := .error "no token"
  tokenInsert _ s := (.ok (), s)
  tokenList s := (.ok [], s)
  tokenRevoke _ s := (.ok 0, s)
  outboxEnqueue _ _ _ _ s := (.ok (), s)
  notifyPeer _ s := ((), s)
  groupCreate _ s := (.ok true, s)
  groupList s := (.ok [], s)
  newAgentToken s := ("wt_1", s)
  unixMs s := (1, s)
  agentTokenHash _ := []
  agentRegister _ s := (.ok true, s)
  agentByToken _ s := (.ok (some (primeRecord "team" [] 1)), s)
  agentGet _ _ s := (.ok none, s)
  agentList _ s := (.ok [], s)
  agentSetStatus _ _ _ s := (.ok (), s)
  sessionGet _ _ s := (.ok none, s)
  sessionList _ s := (.ok [], s)
  sessionClose _ _ s := (.ok (), s)
  busEnqueue _ _ _ _ _ _ s := (.ok 1, s)
  spawnSession _ _ s := (.error ⟨.internal, "spawn harness"⟩, s)
  killChild _ _ s := ((), s)
  teardown _ _ s := (.ok (), s)

def unread : TokenText := ⟨fun _ => .error "no token", fun _ => .error "no token"⟩

lemma newborn_framesFit : (cmdGroupNew "team" "/work" (.ok .new)).FramesFit newborn () := by
  have hfits : Fits (IpcEvent.groupCreated "team" "wt_1").encode := by decide
  have hreply : groupReply [.groupCreated "team" "wt_1"] =
      some (.ok [.groupCreated "team" "wt_1"], []) := by
    rw [groupReply, readReply, bind_readEvent hfits]
    rfl
  have hspawn : ∀ ev ∈ (handleRequest newborn
      (.spawn "wt_1" (coordinatorArgs "team" "/work" .new)) ()).1, Fits ev.encode := by
    intro ev hev
    rw [List.mem_singleton.mp hev]
    decide
  refine ⟨by decide, fun ev hev => List.mem_singleton.mp hev ▸ hfits, fun out rest hread => ?_⟩
  cases hreply.symm.trans hread
  exact ⟨by decide +kernel, hspawn, fun _ _ _ => trivial⟩

theorem requests_and_replies_in_step_groupNew :
    (cmdGroupNew "team" "/work" (.ok .new)).FramesFit newborn () ∧
    ∃ xs s', converse newborn (cmdGroupNew "team" "/work" (.ok .new)) () [] = some (xs, [], s') ∧
      ∀ x ∈ xs, x.InStep :=
  ⟨newborn_framesFit, (requests_and_replies_in_step newborn unread).2.2.2.2 _ ()
    (cmdGroupNew_byCommands "team" "/work" (.ok .new)) newborn_framesFit⟩

lemma readFrame_tooLarge {bytes : ℕ} (h : maxIpcFrameBytes < bytes) (hlt : bytes < 2 ^ 32) :
    readFrame bytes = .tooLarge := by
  rw [readFrame, Nat.mod_eq_of_lt hlt, if_pos h]

lemma length_groupNew (name : String) : (IpcRequest.groupNew name).encode.length =
    16 + (Cbor.headLength name.utf8ByteSize + name.utf8ByteSize) := by
  have hnames : (Cbor.text "GroupNew").length = 9 ∧ (Cbor.text "name").length = 5 := by decide
  have hhead : Cbor.headLength 1 = 1 := by decide
  rw [IpcRequest.encode, Cbor.length_variant, Cbor.length_record]
  simp only [List.map_cons, List.map_nil, List.sum_cons, List.sum_nil, List.length_cons,
    List.length_nil, Nat.reduceAdd, hnames, hhead, Cbor.length_text name]
  omega

lemma length_groupCreated (group : String) : (IpcEvent.groupCreated group "wt_1").encode.length =
    32 + (Cbor.headLength group.utf8ByteSize + group.utf8ByteSize) := by
  have hnames : (Cbor.text "GroupCreated").length = 13 ∧ (Cbor.text "group").length = 6 ∧
      (Cbor.text "token").length = 6 ∧ (Cbor.text "wt_1").length = 5 := by decide
  have hhead : Cbor.headLength 2 = 1 := by decide
  rw [IpcEvent.encode, Cbor.length_variant, Cbor.length_record]
  simp only [List.map_cons, List.map_nil, List.sum_cons, List.sum_nil, List.length_cons,
    List.length_nil, Nat.reduceAdd, hnames, hhead, Cbor.length_text group]
  omega

def ofBytes : ℕ → String
  | 0 => ""
  | n + 1 => (ofBytes n).push 'a'

lemma utf8ByteSize_ofBytes (n : ℕ) : (ofBytes n).utf8ByteSize = n := by
  induction n with
  | zero => rfl
  | succ n ih =>
    rw [ofBytes, String.utf8ByteSize_push, ih]
    rfl

/-- As long as the frame of a request with this name may be. -/
@[irreducible] def wideName : String := ofBytes 67108843

lemma utf8ByteSize_wideName : wideName.utf8ByteSize = 67108843 := by
  unfold wideName
  exact utf8ByteSize_ofBytes 67108843

lemma wide_reply_unread {name : String} (h : name.utf8ByteSize = 67108843) :
    Fits (IpcRequest.groupNew name).encode ∧
    handleRequest newborn (.groupNew name) () = ([.groupCreated name "wt_1"], ()) ∧
    groupReply [.groupCreated name "wt_1"] =
      some (.error .frameTooLarge, [.groupCreated name "wt_1"]) := by
  have hhead : Cbor.headLength 67108843 = 5 := by decide
  have hreply : readFrame (IpcEvent.groupCreated name "wt_1").encode.length = .tooLarge := by
    rw [length_groupCreated, h, hhead]
    exact readFrame_tooLarge (by decide) (by decide)
  refine ⟨?_, rfl, ?_⟩
  · rw [Fits, length_groupNew, h, hhead]
    decide
  · refine bind_error ?_ _
    rw [readEvent, hreply]

theorem reply_left_unread : ∃ name : String, Fits (IpcRequest.groupNew name).encode ∧
    handleRequest newborn (.groupNew name) () = ([.groupCreated name "wt_1"], ()) ∧
    groupReply ∈ readers unread (.groupNew name) ∧
    groupReply [.groupCreated name "wt_1"] =
      some (.error .frameTooLarge, [.groupCreated name "wt_1"]) := by
  obtain ⟨hreq, hwritten, hread⟩ := wide_reply_unread utf8ByteSize_wideName
  exact ⟨wideName, hreq, hwritten, List.mem_singleton_self _, hread⟩

end WalkieTalkie.Ipc
