import Mathlib.Data.List.Basic

/-! The wire and IPC types of `wt-proto`, and the serialisation library they go through: decoding
undoes encoding, and a failed decode carries its error text. -/

namespace WalkieTalkie.Proto

abbrev Bytes := List UInt8

structure Codec (α : Type) where
  encode : α → Bytes
  decode : Bytes → Except String α
  decode_encode : ∀ a, decode (encode a) = .ok a

structure NodeId where
  bytes : Vector UInt8 32
deriving DecidableEq

def hexDigit (n : ℕ) : Char := if n < 10 then Char.ofNat (48 + n) else Char.ofNat (87 + n)

def hexEncode (bs : Bytes) : String :=
  String.ofList (bs.flatMap fun b => [hexDigit (b.toNat / 16), hexDigit (b.toNat % 16)])

def NodeId.display (n : NodeId) : String := hexEncode n.bytes.toList

inductive Cap
  | msg
deriving DecidableEq

def Cap.display : Cap → String
  | .msg => "msg"

abbrev TokenId := Vector UInt8 16

structure CapabilityToken where
  iss : NodeId
  sub : NodeId
  exp : UInt64
  caps : List Cap
  id : TokenId
deriving DecidableEq

structure SignedToken where
  claimsCbor : Bytes
  sig : Bytes
deriving DecidableEq

inductive StreamOpen
  | msg (token : SignedToken) (channel : String)
deriving DecidableEq

structure MessageFrame where
  seq : UInt64
  tsMs : UInt64
  payload : Bytes
deriving DecidableEq

structure AddrTicket where
  nodeid : NodeId
  relayUrl : Option String
  directAddrs : List String
deriving DecidableEq

inductive PeerSelector
  | name (n : String)
  | nodeId (n : NodeId)
deriving DecidableEq

inductive FsMode
  | worktree
  | new
deriving DecidableEq

inductive AgentMsgKind
  | turnOutput
  | turnInput
  | user
  | control
  | trace
deriving DecidableEq

inductive IpcErrorCode
  | unauthorized
  | expired
  | revoked
  | peerNotKnown
  | notFound
  | badRequest
  | unimplemented
  | internal
deriving DecidableEq

structure IpcError where
  code : IpcErrorCode
  message : String
deriving DecidableEq

structure TokenInfo where
  id : TokenId
  iss : NodeId
  sub : NodeId
  exp : UInt64
  caps : List Cap
  revoked : Bool
deriving DecidableEq

end WalkieTalkie.Proto
