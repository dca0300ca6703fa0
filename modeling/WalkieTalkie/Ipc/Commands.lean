import WalkieTalkie.Ipc.Replies

/-! What the commands read. A reader takes events from the front of what the daemon has written and
waits when there is none. A command that makes several requests does so on one connection, each
after it has read the reply to the one before. -/

namespace WalkieTalkie.Ipc

open Proto Store Lib
open Delivery.Drain (maxIpcFrameBytes)

inductive Frame
  | whole
  | cut
  | tooLarge
deriving DecidableEq

/-- Both ends write the length of a body in 32 bits, refuse more than the limit and read as many bytes
as the length says. -/
def readFrame (bytes : ℕ) : Frame :=
  let len := bytes % 2 ^ 32
  if maxIpcFrameBytes < len then .tooLarge else if len < bytes then .cut else .whole

inductive CliError
  | frameTooLarge
  | decode
  | ipc (e : IpcError)
  | unexpected (ev : IpcEvent)
  | token (e : String)
deriving DecidableEq

def Reader (α : Type) : Type := List IpcEvent → Option (Except CliError α × List IpcEvent)

instance : Monad Reader where
  pure a s := some (.ok a, s)
  bind r f s :=
    match r s with
    | none => none
    | some (.error e, rest) => some (.error e, rest)
    | some (.ok a, rest) => f a rest

lemma bind_ok {α β : Type} {r : Reader α} {a : α} {s rest : List IpcEvent}
    (h : r s = some (.ok a, rest)) (f : α → Reader β) : (r >>= f) s = f a rest := by
  change (match r s with
    | none => none
    | some (Except.error e, rest) => some (Except.error e, rest)
    | some (Except.ok a, rest) => f a rest) = f a rest
  rw [h]

lemma bind_error {α β : Type} {r : Reader α} {e : CliError} {s rest : List IpcEvent}
    (h : r s = some (.error e, rest)) (f : α → Reader β) : (r >>= f) s = some (.error e, rest) := by
  change (match r s with
    | none => none
    | some (Except.error e, rest) => some (Except.error e, rest)
    | some (Except.ok a, rest) => f a rest) = some (.error e, rest)
  rw [h]

def bail {α : Type} (e : CliError) : Reader α := fun s => some (.error e, s)

def readEvent : Reader IpcEvent
  | [] => none
  | ev :: rest =>
    match readFrame ev.encode.length with
    | .tooLarge => some (.error .frameTooLarge, ev :: rest)
    | .cut => some (.error .decode, ev :: rest)
    | .whole => some (.ok ev, rest)

def refused : IpcEvent → CliError
  | .err e => .ipc e
  | other => .unexpected other

def readReply (wanted : IpcEvent → Bool) : Reader (List IpcEvent) := do
  let ev ← readEvent
  if wanted ev then pure [ev] else bail (refused ev)

def readListing (item : IpcEvent → Bool) (last : IpcEvent) : Reader (List IpcEvent)
  | [] => none
  | ev :: rest =>
    match readEvent (ev :: rest) with
    | none => none
    | some (.error e, left) => some (.error e, left)
    | some (.ok ev, _) =>
      if item ev then
        (readListing item last rest).map fun (out, left) => (out.map fun evs => ev :: evs, left)
      else if ev = last then some (.ok [], rest)
      else some (.error (refused ev), rest)

def expectOk : Reader (List IpcEvent) := readReply IpcEvent.isOk

structure TokenText where
  decode : Bytes → Except String SignedToken
  encodeBase32 : SignedToken → Except String String

def cmdNodeid : Reader (List IpcEvent) := readReply IpcEvent.isNodeIdValue

def cmdStatus : Reader (List IpcEvent) := readReply IpcEvent.isStatusInfo

def cmdPeerAdd : Reader (List IpcEvent) := expectOk

def cmdTicket : Reader (List IpcEvent) := readReply IpcEvent.isTicketValue

def cmdPeerRm : Reader (List IpcEvent) := expectOk

def cmdLs : Reader (List IpcEvent) := readListing IpcEvent.isPeerListItem .peerListEnd

def cmdConn : Reader (List IpcEvent) := readListing IpcEvent.isConnListItem .connListEnd

def cmdTokenGrant (text : TokenText) : Reader (List IpcEvent) := do
  match ← readEvent with
  | .tokenIssued raw info =>
    match text.decode raw >>= text.encodeBase32 with
    | .ok _ => pure [.tokenIssued raw info]
    | .error e => bail (.token e)
  | other => bail (refused other)

/-- The first event is looked at only for an error: whatever else it is, an `Ok` must follow. -/
def cmdTokenImport : Reader (List IpcEvent) := do
  match ← readEvent with
  | .err e => bail (.ipc e)
  | first =>
    let _ ← expectOk
    pure (if first.isTokenListItem then [first] else [])

def cmdTokenList : Reader (List IpcEvent) := readListing IpcEvent.isTokenListItem .tokenListEnd

def cmdTokenRevoke : Reader (List IpcEvent) := expectOk

def cmdSend : Reader (List IpcEvent) := expectOk

/-- A line of a chat takes its reply without looking at it. -/
def chatReply : Reader (List IpcEvent) := do
  let _ ← readEvent
  pure []

def groupReply : Reader (List IpcEvent) := readReply IpcEvent.isGroupCreated

/-- The coordinator of a new group may fail to start. -/
def coordinatorReply : Reader (List IpcEvent) := do
  match ← readEvent with
  | .spawned group session token workspace => pure [.spawned group session token workspace]
  | .err e => pure [.err e]
  | other => bail (.unexpected other)

def cmdGroupLs : Reader (List IpcEvent) := readListing IpcEvent.isGroupListItem .groupListEnd

def cmdSessionLs : Reader (List IpcEvent) := readListing IpcEvent.isSessionListItem .sessionListEnd

def cmdAgentLs : Reader (List IpcEvent) := readListing IpcEvent.isAgentListItem .agentListEnd

def cmdWhoami : Reader (List IpcEvent) := readReply IpcEvent.isWhoAmIInfo

def cmdAgentSend : Reader (List IpcEvent) := expectOk

def cmdSpawn : Reader (List IpcEvent) := readReply IpcEvent.isSpawned

def cmdAgentKill : Reader (List IpcEvent) := expectOk

def cmdSessionClose : Reader (List IpcEvent) := expectOk

/-- How the commands that make a request read its reply. No command closes a connection. -/
def readers (text : TokenText) : IpcRequest → List (Reader (List IpcEvent))
  | .status => [cmdStatus]
  | .nodeId => [cmdNodeid]
  | .ticket => [cmdTicket]
  | .peerAdd .. => [cmdPeerAdd]
  | .peerRm _ => [cmdPeerRm]
  | .peerList _ => [cmdLs]
  | .connList => [cmdConn]
  | .connClose _ => []
  | .tokenGrant .. => [cmdTokenGrant text]
  | .tokenImport _ => [cmdTokenImport]
  | .tokenList => [cmdTokenList]
  | .tokenRevoke _ => [cmdTokenRevoke]
  | .send .. => [cmdSend, chatReply]
  | .groupNew _ => [groupReply]
  | .groupList => [cmdGroupLs]
  | .sessionList _ => [cmdSessionLs]
  | .agentList .. => [cmdAgentLs]
  | .spawn .. => [cmdSpawn, coordinatorReply]
  | .agentSend .. => [cmdAgentSend]
  | .agentKill .. => [cmdAgentKill]
  | .sessionClose .. => [cmdSessionClose]
  | .whoAmI _ => [cmdWhoami]

inductive Conversation
  | done
  | exchange (req : IpcRequest) (reader : Reader (List IpcEvent))
      (next : Except CliError (List IpcEvent) → Conversation)

def coordinatorArgs (group cwd : String) (fsMode : FsMode) : SpawnArgs where
  group := group
  session := "coordinator"
  baseDir := cwd
  fsMode := fsMode
  branch := none
  label := none
  prompt := "No task has been given yet. Briefly introduce yourself in one line as the prime " ++
    "coordinator and ask the user what they would like to build, then wait for their instruction."
  harnessArgv := none
  idleTimeoutSecs := none
  permissionMode := none
  skipPermissions := false
  trace := false
  coordinator := true

def cmdGroupNew (name cwd : String) (resolveFsMode : Except String FsMode) : Conversation :=
  .exchange (.groupNew name) groupReply fun
    | .ok [.groupCreated _ token] =>
      match resolveFsMode with
      | .error _ => .done
      | .ok fsMode =>
        .exchange (.spawn token (coordinatorArgs name cwd fsMode)) coordinatorReply fun _ => .done
    | _ => .done

def cmdChat (peer : PeerSelector) (channel : String) : List Bytes → Conversation
  | [] => .done
  | payload :: lines =>
    .exchange (.send peer channel payload) chatReply fun
      | .error _ => .done
      | .ok _ => cmdChat peer channel lines

structure Exchange where
  req : IpcRequest
  reader : Reader (List IpcEvent)
  written : List IpcEvent
  outcome : Except CliError (List IpcEvent)

variable {σ : Type} (D : Daemon σ)

/-- A conversation on one connection with what is unread of it. There is no result when the daemon
does not take a request or the command waits for an event that was not written. -/
def converse : Conversation → σ → List IpcEvent → Option (List Exchange × List IpcEvent × σ)
  | .done, s, pending => some ([], pending, s)
  | .exchange req reader next, s, pending =>
    if readFrame req.encode.length = .whole then
      let (w, s') := handleRequest D req s
      match reader (pending ++ w) with
      | none => none
      | some (out, rest) =>
        (converse (next out) s' rest).map fun (xs, left) => (⟨req, reader, w, out⟩ :: xs, left)
    else none

def Conversation.ByCommands (text : TokenText) : Conversation → Prop
  | .done => True
  | .exchange req reader next => reader ∈ readers text req ∧ ∀ out, (next out).ByCommands text

def Fits (body : Bytes) : Prop := body.length ≤ maxIpcFrameBytes

def Conversation.FramesFit : Conversation → σ → Prop
  | .done, _ => True
  | .exchange req reader next, s =>
    Fits req.encode ∧ (∀ ev ∈ (handleRequest D req s).1, Fits ev.encode) ∧
      ∀ out rest, reader (handleRequest D req s).1 = some (out, rest) →
        (next out).FramesFit (handleRequest D req s).2

end WalkieTalkie.Ipc
