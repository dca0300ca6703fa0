import WalkieTalkie.Store.Agents

/-! The control flow of `spawn_session` and `supervisor::start`, with the provisioning of the
workspace and its rollback, one point for each store job, file-system step or change of the
daemon's tables. The rows are those of the one name that is spawned. -/

namespace WalkieTalkie.Orchestration

open Proto Store

structure Rows where
  agent : Option AgentStatus
  session : Option SessionStatus
deriving DecidableEq

/-- A job for the store. `bus` stands for the jobs that leave both rows alone: enqueuing, reading
and marking bus messages, and bumping `last_seen_ms`. -/
inductive Op
  | sessionGet
  | agentGet
  | agentRegister
  | sessionCreate
  | agentSetStatus (status : AgentStatus)
  | sessionClose
  | bus
deriving DecidableEq

def Op.execute (rows : Rows) : Op → Rows × Bool
  | .sessionGet => (rows, rows.session.isSome)
  | .agentGet => (rows, rows.agent.isSome)
  | .agentRegister =>
    if rows.agent.isSome then (rows, false) else ({ rows with agent := some .starting }, true)
  | .sessionCreate =>
    if rows.session.isSome then (rows, false) else ({ rows with session := some .active }, true)
  | .agentSetStatus status => ({ rows with agent := rows.agent.map fun _ => status }, true)
  | .sessionClose => ({ rows with session := rows.session.map fun _ => .closed }, true)
  | .bus => (rows, true)

inductive FsOp
  | wsExists
  | createParent
  | isGitRepo
  | worktreeAdd
  | createDir
  | worktreeRemove
  | branchDelete
  | removeDir
deriving DecidableEq

inductive SpawnPc
  | sessionGet
  | agentGet
  | wsExists
  | createParent
  | isGitRepo
  | worktreeAdd
  | createDir
  | agentRegister
  | sessionCreate
  | harnessSpawn
  | setRunning
  | recordPrompt
  | consumePrompt
  | spawnTask
  | registerChild
  | setExited (code : IpcErrorCode)
  | worktreeRemove (code : IpcErrorCode)
  | branchDelete (code : IpcErrorCode)
  | removeDir (code : IpcErrorCode)
  | done (answer : Except IpcErrorCode Unit)
deriving DecidableEq

inductive Effect
  | store (op : Op)
  | files (op : FsOp)
  | harnessSpawn
  | spawnTask
  | registerChild
  | stop
deriving DecidableEq

/-- What a spawn request fixes: the mode of its workspace and whether its prompt is not empty. -/
structure SpawnRequest where
  mode : FsMode
  prompt : Bool
deriving DecidableEq

namespace SpawnPc

def effect : SpawnPc → Effect
  | .sessionGet => .store .sessionGet
  | .agentGet => .store .agentGet
  | .wsExists => .files .wsExists
  | .createParent => .files .createParent
  | .isGitRepo => .files .isGitRepo
  | .worktreeAdd => .files .worktreeAdd
  | .createDir => .files .createDir
  | .agentRegister => .store .agentRegister
  | .sessionCreate => .store .sessionCreate
  | .harnessSpawn => .harnessSpawn
  | .setRunning => .store (.agentSetStatus .running)
  | .recordPrompt => .store .bus
  | .consumePrompt => .store .bus
  | .spawnTask => .spawnTask
  | .registerChild => .registerChild
  | .setExited _ => .store (.agentSetStatus .exited)
  | .worktreeRemove _ => .files .worktreeRemove
  | .branchDelete _ => .files .branchDelete
  | .removeDir _ => .files .removeDir
  | .done _ => .stop

def teardown (req : SpawnRequest) (code : IpcErrorCode) : SpawnPc :=
  match req.mode with
  | .worktree => .worktreeRemove code
  | .new => .removeDir code

def next (req : SpawnRequest) : SpawnPc → Bool → SpawnPc
  | .sessionGet, true => .done (.error .badRequest)
  | .sessionGet, false => .agentGet
  | .agentGet, true => .done (.error .badRequest)
  | .agentGet, false => .wsExists
  | .wsExists, true => .done (.error .badRequest)
  | .wsExists, false => .createParent
  | .createParent, true =>
    match req.mode with
    | .worktree => .isGitRepo
    | .new => .createDir
  | .createParent, false => .done (.error .badRequest)
  | .isGitRepo, true => .worktreeAdd
  | .isGitRepo, false => .done (.error .badRequest)
  | .worktreeAdd, true => .agentRegister
  | .worktreeAdd, false => .done (.error .badRequest)
  | .createDir, true => .agentRegister
  | .createDir, false => .done (.error .badRequest)
  | .agentRegister, true => .sessionCreate
  | .agentRegister, false => teardown req .badRequest
  | .sessionCreate, true => .harnessSpawn
  | .sessionCreate, false => .setExited .badRequest
  | .harnessSpawn, true => .setRunning
  | .harnessSpawn, false => .setExited .internal
  | .setRunning, _ => if req.prompt then .recordPrompt else .spawnTask
  | .recordPrompt, true => .consumePrompt
  | .recordPrompt, false => .spawnTask
  | .consumePrompt, _ => .spawnTask
  | .spawnTask, _ => .registerChild
  | .registerChild, _ => .done (.ok ())
  | .setExited code, _ => teardown req code
  | .worktreeRemove code, _ => .branchDelete code
  | .branchDelete code, _ => .removeDir code
  | .removeDir code, _ => .done (.error code)
  | .done answer, _ => .done answer

end SpawnPc

end WalkieTalkie.Orchestration
