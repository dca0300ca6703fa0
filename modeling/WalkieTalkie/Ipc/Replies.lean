import WalkieTalkie.Ipc.Dispatch

/-! The reply language of every request. Whatever the operations of the daemon answer, what it writes
for a request is a word of that language, where a failure adds the one error that ends it. -/

namespace WalkieTalkie.Ipc

open Proto Store Lib Lib.Serve

inductive Shape
  | single (reply : IpcEvent → Bool)
  | listing (item : IpcEvent → Bool) (last : IpcEvent)
  | imported

def Shape.Accepts : Shape → List IpcEvent → Prop
  | .single reply, w => ∃ ev, w = [ev] ∧ (reply ev = true ∨ ∃ e, ev = .err e)
  | .listing item last, w => ∃ items ev, w = items ++ [ev] ∧ (∀ i ∈ items, item i = true) ∧
      (ev = last ∨ ∃ e, ev = .err e)
  | .imported, w => (∃ info, w = [.tokenListItem info, .ok]) ∨ ∃ e, w = [.err e]

namespace IpcEvent

def isOk : IpcEvent → Bool
  | .ok => true
  | _ => false

def isStatusInfo : IpcEvent → Bool
  | .statusInfo .. => true
  | _ => false

def isNodeIdValue : IpcEvent → Bool
  | .nodeIdValue _ => true
  | _ => false

def isTicketValue : IpcEvent → Bool
  | .ticketValue _ => true
  | _ => false

def isPeerListItem : IpcEvent → Bool
  | .peerListItem _ => true
  | _ => false

def isConnListItem : IpcEvent → Bool
  | .connListItem _ => true
  | _ => false

def isTokenIssued : IpcEvent → Bool
  | .tokenIssued .. => true
  | _ => false

def isTokenListItem : IpcEvent → Bool
  | .tokenListItem _ => true
  | _ => false

def isGroupCreated : IpcEvent → Bool
  | .groupCreated .. => true
  | _ => false

def isSpawned : IpcEvent → Bool
  | .spawned .. => true
  | _ => false

def isGroupListItem : IpcEvent → Bool
  | .groupListItem _ => true
  | _ => false

def isSessionListItem : IpcEvent → Bool
  | .sessionListItem _ => true
  | _ => false

def isAgentListItem : IpcEvent → Bool
  | .agentListItem _ => true
  | _ => false

def isWhoAmIInfo : IpcEvent → Bool
  | .whoAmIInfo _ => true
  | _ => false

end IpcEvent

def shape : IpcRequest → Shape
  | .status => .single IpcEvent.isStatusInfo
  | .nodeId => .single IpcEvent.isNodeIdValue
  | .ticket => .single IpcEvent.isTicketValue
  | .peerAdd .. => .single IpcEvent.isOk
  | .peerRm _ => .single IpcEvent.isOk
  | .peerList _ => .listing IpcEvent.isPeerListItem .peerListEnd
  | .connList => .listing IpcEvent.isConnListItem .connListEnd
  | .connClose _ => .single fun _ => false
  | .tokenGrant .. => .single IpcEvent.isTokenIssued
  | .tokenImport _ => .imported
  | .tokenList => .listing IpcEvent.isTokenListItem .tokenListEnd
  | .tokenRevoke _ => .single IpcEvent.isOk
  | .send .. => .single IpcEvent.isOk
  | .groupNew _ => .single IpcEvent.isGroupCreated
  | .groupList => .listing IpcEvent.isGroupListItem .groupListEnd
  | .sessionList _ => .listing IpcEvent.isSessionListItem .sessionListEnd
  | .agentList .. => .listing IpcEvent.isAgentListItem .agentListEnd
  | .spawn .. => .single IpcEvent.isSpawned
  | .agentSend .. => .single IpcEvent.isOk
  | .agentKill .. => .single IpcEvent.isOk
  | .sessionClose .. => .single IpcEvent.isOk
  | .whoAmI _ => .single IpcEvent.isWhoAmIInfo

variable {σ α : Type} {sh : Shape} {reply item : IpcEvent → Bool} {last : IpcEvent}

/-- What a handler writes is a reply, and if it fails one once the error is added. -/
def Shape.Served (sh : Shape) (m : Handler σ Unit) : Prop :=
  Post m (fun _ w => sh.Accepts w) fun w => ∀ e, sh.Accepts (w ++ [.err e])

lemma accepts_err (sh : Shape) (e : IpcError) : sh.Accepts [.err e] := by
  cases sh with
  | single reply => exact ⟨_, rfl, Or.inr ⟨e, rfl⟩⟩
  | listing item last => exact ⟨[], _, rfl, fun _ hi => (by cases hi), Or.inr ⟨e, rfl⟩⟩
  | imported => exact Or.inr ⟨e, rfl⟩

lemma accepts_items {w w' : List IpcEvent} (hw : ∀ i ∈ w, item i = true)
    (h : (Shape.listing item last).Accepts w') : (Shape.listing item last).Accepts (w ++ w') := by
  obtain ⟨items, ev, rfl, hitems, hev⟩ := h
  refine ⟨w ++ items, ev, (List.append_assoc ..).symm, fun i hi => ?_, hev⟩
  exact (List.mem_append.mp hi).elim (hw i) (hitems i)

lemma served_err (e : IpcError) : sh.Served (write (.err e) : Handler σ Unit) :=
  post_write (accepts_err sh e)

lemma served_reply {ev : IpcEvent} (h : reply ev = true) :
    (Shape.single reply).Served (write ev : Handler σ Unit) :=
  post_write ⟨ev, rfl, Or.inl h⟩

lemma served_last : (Shape.listing item last).Served (write last : Handler σ Unit) :=
  post_write ⟨[], last, rfl, fun _ hi => (by cases hi), Or.inl rfl⟩

lemma served_silent {m : Handler σ α} {f : α → Handler σ Unit} (hm : Silent m)
    (hf : ∀ a, sh.Served (f a)) : sh.Served (m >>= f) :=
  post_silent hm (accepts_err sh) hf

lemma served_call {op : σ → Except String α × σ} {f : α → Handler σ Unit}
    (hf : ∀ a, sh.Served (f a)) : sh.Served (call op >>= f) :=
  served_silent (silent_call op) hf

lemma served_ask {op : σ → α × σ} {f : α → Handler σ Unit} (hf : ∀ a, sh.Served (f a)) :
    sh.Served (ask op >>= f) :=
  served_silent (silent_ask op) hf

def Items (item : IpcEvent → Bool) (m : Handler σ Unit) : Prop :=
  Post m (fun _ w => ∀ i ∈ w, item i = true) fun w => ∀ i ∈ w, item i = true

lemma items_write {ev : IpcEvent} (h : item ev = true) : Items item (write ev : Handler σ Unit) :=
  post_write fun _ hi => List.mem_singleton.mp hi ▸ h

lemma items_call {op : σ → Except String α × σ} {f : α → Handler σ Unit}
    (hf : ∀ a, Items item (f a)) : Items item (call op >>= f) :=
  post_silent (silent_call op) (fun _ hi => (by cases hi)) hf

lemma served_each {g : α → Handler σ Unit} (hg : ∀ x, Items item (g x)) {xs : List α}
    {f : Unit → Handler σ Unit} (hf : ∀ u, (Shape.listing item last).Served (f u)) :
    (Shape.listing item last).Served (each g xs >>= f) := by
  refine post_bind fun s => ?_
  have hxs := post_each hg xs s
  rcases hes : each g xs s with ⟨r, w, s'⟩
  rw [hes] at hxs
  cases r with
  | error e => exact fun e' => accepts_items hxs (accepts_err _ e')
  | ok u =>
    intro s''
    have hk := hf u s''
    rcases hfs : f u s'' with ⟨r', w', s₃⟩
    rw [hfs] at hk
    cases r' with
    | error e =>
      intro e'
      rw [List.append_assoc]
      exact accepts_items hxs (hk e')
    | ok u' => exact accepts_items hxs hk

variable (D : Daemon σ)

lemma served_authorised {token : String} {handler : AgentRecord → Handler σ Unit}
    (h : ∀ me, sh.Served (handler me)) : sh.Served (authorised D token handler) := by
  refine served_call fun me => ?_
  cases me with
  | none => exact served_err _
  | some me => exact h me

lemma served_changed {op : σ → Except String ℕ × σ} {missing : String} :
    (Shape.single IpcEvent.isOk).Served (changed op missing) := by
  refine served_call fun n => ?_
  split
  · exact served_err _
  · exact served_reply rfl

lemma served_peerList (filter : PeerFilter) :
    (shape (.peerList filter)).Served (peerList D filter) := by
  refine served_call fun peers => served_ask fun conns => served_each (fun _ => items_write rfl) fun _ => ?_
  dsimp only
  split
  · exact served_ask fun _ => served_each (fun _ => items_write rfl) fun _ => served_last
  · refine served_silent (silent_pure _) fun _ => ?_
    exact served_each (fun _ => items_write rfl) fun _ => served_last

lemma served_tokenGrant (peer : PeerSelector) (caps : List Cap) (ttlSecs : Option UInt64) :
    (shape (.tokenGrant peer caps ttlSecs)).Served (tokenGrant D peer caps ttlSecs) := by
  refine served_call fun p => ?_
  cases p with
  | none => exact served_err _
  | some p =>
    exact served_call fun _ => served_call fun _ => served_call fun _ => served_call fun _ =>
      served_reply rfl

lemma served_tokenImport (raw : Bytes) : (shape (.tokenImport raw)).Served (tokenImport D raw) := by
  unfold tokenImport
  split
  · exact served_err _
  · split
    · exact served_err _
    · split
      · exact served_err _
      · refine served_call fun issuer => ?_
        cases issuer with
        | none => exact served_err _
        | some _ =>
          refine served_call fun row => served_call fun _ => post_bind ?_
          exact post_write (post_write (Or.inl ⟨_, rfl⟩))

lemma served_send (peer : PeerSelector) (channel : String) (payload : Bytes) :
    (shape (.send peer channel payload)).Served (send D peer channel payload) := by
  refine served_call fun p => ?_
  cases p with
  | none => exact served_err _
  | some p => exact served_call fun _ => served_ask fun _ => served_reply rfl

lemma served_groupNew (name : String) : (shape (.groupNew name)).Served (groupNew D name) := by
  refine served_call fun created => ?_
  cases created with
  | false => exact served_err _
  | true => exact served_ask fun _ => served_ask fun _ => served_call fun _ => served_reply rfl

lemma served_groupList : (shape .groupList).Served (groupList D) :=
  served_call fun _ => served_each (fun _ => items_call fun _ => items_write rfl) fun _ => served_last

lemma served_sessionList (group : String) :
    (shape (.sessionList group)).Served (sessionList D group) :=
  served_call fun _ => served_each (fun _ => items_call fun _ => items_write rfl) fun _ => served_last

lemma served_agentItems (rows : List AgentRecord) :
    (Shape.listing IpcEvent.isAgentListItem .agentListEnd).Served
      (agentItems rows : Handler σ Unit) :=
  served_each (fun _ => items_write rfl) fun _ => served_last

lemma served_agentList (group session : Option String) :
    (shape (.agentList group session)).Served (agentList D group session) := by
  unfold agentList
  split
  · refine served_call fun sess => ?_
    cases sess with
    | none => exact served_err _
    | some sess => exact served_call fun _ => served_call fun _ => served_agentItems _
  · exact served_call fun _ => served_agentItems _

lemma served_agentSend (token session : String) (kind : AgentMsgKind) (payload : Bytes) :
    (shape (.agentSend token session kind payload)).Served
      (agentSend D token session kind payload) := by
  refine served_authorised D fun me => served_call fun sess => ?_
  cases sess with
  | none => exact served_err _
  | some sess =>
    dsimp only
    split
    · exact served_call fun _ => served_reply rfl
    · split
      · exact served_call fun _ => served_reply rfl
      · exact served_err _

lemma served_spawn (token : String) (args : SpawnArgs) :
    (shape (.spawn token args)).Served (spawn D token args) := by
  refine served_authorised D fun me => ?_
  split
  · exact served_err _
  · refine served_ask fun out => ?_
    cases out with
    | error e => exact served_err e
    | ok out => exact served_reply rfl

lemma served_agentKill (token agent : String) :
    (shape (.agentKill token agent)).Served (agentKill D token agent) := by
  refine served_authorised D fun me => ?_
  split
  · exact served_err _
  · refine served_call fun a => ?_
    cases a with
    | none => exact served_err _
    | some _ =>
      refine served_ask fun _ => served_ask fun _ => served_call fun sess => ?_
      cases sess with
      | none => exact served_reply rfl
      | some _ => exact served_ask fun _ => served_reply rfl

lemma served_sessionClose (token session : String) (discard : Bool) :
    (shape (.sessionClose token session discard)).Served
      (sessionClose D token session discard) := by
  refine served_authorised D fun me => ?_
  split
  · exact served_err _
  · refine served_call fun sess => ?_
    cases sess with
    | none => exact served_err _
    | some sess =>
      exact served_ask fun _ => served_ask fun _ => served_call fun _ => served_ask fun _ =>
        served_reply rfl

lemma dispatch_served (req : IpcRequest) : (shape req).Served (dispatch D req) := by
  cases req with
  | status => exact served_reply rfl
  | nodeId => exact served_reply rfl
  | ticket => exact served_call fun _ => served_reply rfl
  | peerAdd nodeid name addrBlob => exact served_call fun _ => served_reply rfl
  | peerRm selector => exact served_changed
  | peerList filter => exact served_peerList D filter
  | connList => exact served_ask fun _ => served_each (fun _ => items_write rfl) fun _ => served_last
  | connClose selector => exact served_err _
  | tokenGrant peer caps ttlSecs => exact served_tokenGrant D peer caps ttlSecs
  | tokenImport raw => exact served_tokenImport D raw
  | tokenList => exact served_call fun _ => served_each (fun _ => items_write rfl) fun _ => served_last
  | tokenRevoke id => exact served_changed
  | send peer channel payload => exact served_send D peer channel payload
  | groupNew name => exact served_groupNew D name
  | groupList => exact served_groupList D
  | sessionList group => exact served_sessionList D group
  | agentList group session => exact served_agentList D group session
  | spawn token args => exact served_spawn D token args
  | agentSend token session kind payload => exact served_agentSend D token session kind payload
  | agentKill token agent => exact served_agentKill D token agent
  | sessionClose token session discard => exact served_sessionClose D token session discard
  | whoAmI token => exact served_authorised D fun _ => served_reply rfl

lemma handleRequest_accepts (req : IpcRequest) (s : σ) :
    (shape req).Accepts (handleRequest D req s).1 := by
  have h := dispatch_served D req s
  rw [handleRequest]
  rcases hds : dispatch D req s with ⟨r, w, s'⟩
  rw [hds] at h
  cases r with
  | error e => exact h _
  | ok u => exact h

end WalkieTalkie.Ipc
