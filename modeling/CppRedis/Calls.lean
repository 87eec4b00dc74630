import CppRedis.Client
import CppRedis.Subscriber

/-!
# What a call can do

The code of a user reaches a client or a subscriber through its public functions
only. `Call` relates the states before and after a public function, or before
and after a part of `connect`, which calls back in between; a callback is a
procedure that follows `Call`, whether it returns or throws.

`Owner.Within` says that the reconnection keeps to the steps of a relation. Its
lemmas are one for each function of the session, up to `reconnectLoop_follows`.
`HandlersWithin` says the same of what the handlers of a connection do to it.
-/

namespace CppRedis

open Text Procedure

namespace Session

/-- A public function, or a part of one, as far as it concerns the session. -/
inductive Call (s : Session) : Session → Prop
  | cancelReconnect : Call s s.cancelReconnect
  | addSentinel (sentinel : SentinelDef) : Call s (s.addSentinel sentinel)
  | clearSentinels : Call s s.clearSentinels
  | saveConnect (p : ConnectParams) : Call s (s.saveConnect p)
  | record (n : Notification) : Call s (s.record n)
  | setMasterName (name : Bytes) : Call s { s with masterName := name }
  | lookup (lookup : Lookup) : Call s (after (getMasterAddrByName lookup) s)
  | dial (host : Bytes) (port timeoutMsecs : Nat) (accepted : Bool) :
      Call s (after (connection.zoom
        (RedisConnection.connect host port true true timeoutMsecs accepted)) s)

/-- No public function writes the flag. -/
theorem Call.reconnecting {s t : Session} (h : Call s t) : t.reconnecting = s.reconnecting := by
  cases h with
  | lookup lookup =>
    obtain ⟨host, port, h⟩ := s.after_getMasterAddrByName lookup
    rw [h]
  | dial host port timeoutMsecs accepted =>
    rw [Lens.after_zoom]
    rfl
  | _ => rfl

end Session

/-! ## Owners -/

namespace Owner

variable {σ : Type} {o : Owner σ} {R : σ → σ → Prop}

/-- The public functions of the session and the connect callback keep to `R`. -/
structure Calls (o : Owner σ) (R : σ → σ → Prop) : Prop where
  session : ∀ s t, Session.Call (o.session.get s) t → R s (o.session.set t s)
  notify : ∀ n, Follows R (o.notify n)

namespace Calls

/-- A procedure of the session that is a call. -/
theorem zoom (h : Calls o R) {α : Type} {p : EStateM Fault Session α}
    (hp : ∀ s, Session.Call s (after p s)) : Follows R (o.session.zoom p) :=
  .zoom fun _ => h.session _ _ (hp _)

theorem callConnectCallback_follows (h : Calls o R) (host : Bytes) (port : Nat)
    (state : ConnectState) : Follows R (o.callConnectCallback host port state) := by
  unfold callConnectCallback
  refine .bind .get fun s => .ite (.bind (.modify fun s => ?_) fun _ => h.notify _) (.pure _)
  exact h.session _ _ (.record _)

theorem notifyState_follows (h : Calls o R) (state : ConnectState) :
    Follows R (o.notifyState state) :=
  .bind .get fun _ => h.callConnectCallback_follows _ _ _

theorem connect_follows (h : Calls o R) (p : Session.ConnectParams) (accepted : Bool) :
    Follows R (o.connect p accepted) := by
  unfold Owner.connect
  refine .bind (.modify fun s => h.session _ _ (.saveConnect p)) fun _ => ?_
  refine .bind (h.callConnectCallback_follows _ _ _) fun _ => ?_
  refine .bind (h.zoom fun s => .dial _ _ _ _) fun _ => ?_
  exact h.notifyState_follows _

theorem connectByName_follows (h : Calls o R) (what : String) (name : Bytes)
    (p : Session.ConnectParams) (lookup : Lookup) (accepted : Bool) :
    Follows R (o.connectByName what name p lookup accepted) := by
  unfold Owner.connectByName
  refine .bind (.modify fun s => h.session _ _ (.setMasterName name)) fun _ => ?_
  refine .bind (h.zoom fun s => .lookup lookup) fun found => .ite ?_ (.throw _)
  exact .bind .get fun s => h.connect_follows _ _

end Calls

/-- The reconnection keeps to `R`, but for the flag. -/
structure Within (o : Owner σ) (R : σ → σ → Prop) : Prop extends Calls o R where
  countAttempt : ∀ s, R s (o.session.update Session.countAttempt s)
  lose : ∀ s, R s (o.session.update Session.lose s)
  resume : Follows R o.resume
  giveUp : Follows R o.giveUp

namespace Within

theorem sleepBeforeNextReconnectAttempt_follows (h : Within o R) :
    Follows R o.sleepBeforeNextReconnectAttempt :=
  .bind .get fun _ => .ite (.pure _) (h.notifyState_follows _)

theorem findMaster_follows (h : Within o R) (lookup : Lookup) : Follows R (o.findMaster lookup) :=
  .bind .get fun _ => .ite (.pure _) (h.zoom fun _ => .lookup lookup)

theorem tryConnect_follows (h : Within o R) (accepted : Bool) : Follows R (o.tryConnect accepted) :=
  .bind .get fun _ => .tryCatch (h.connect_follows _ _) fun _ => .ite (.pure _) (.throw _)

theorem reconnect_follows (h : Within o R) (a : Attempt) : Follows R (o.reconnect a) := by
  unfold Owner.reconnect
  refine .bind (.modify h.countAttempt) fun _ => ?_
  refine .bind (h.findMaster_follows _) fun found => .ite ?_ (h.notifyState_follows _)
  refine .bind (h.tryConnect_follows _) fun _ => ?_
  refine .bind .get fun s => .ite ?_ (h.notifyState_follows _)
  refine .bind (h.notifyState_follows _) fun _ => ?_
  exact .ite (.bind (.modify h.lose) fun _ => h.resume) h.resume

theorem reconnectLoop_follows (h : Within o R) (attempts : List Attempt) :
    Follows R (o.reconnectLoop attempts) := by
  induction attempts with
  | nil => exact .bind .get fun _ => .pure _
  | cons a attempts ih =>
    unfold Owner.reconnectLoop
    refine .bind .get fun s => .ite ?_ (.pure _)
    refine .bind h.sleepBeforeNextReconnectAttempt_follows fun _ => ?_
    exact .bind (h.reconnect_follows a) fun _ => ih

/-- The handler, of which `R` allows the writes to the flag too. -/
theorem connectionDisconnectionHandler_follows (h : Within o R)
    (hbegin : ∀ s, R s (o.session.update Session.beginReconnection s))
    (hend : ∀ s, R s (o.session.update Session.endReconnection s)) {others : σ → σ}
    (hothers : ∀ s, Relation.ReflTransGen R s (others s)) (attempts : List Attempt) :
    Follows R (o.connectionDisconnectionHandler others attempts) := by
  unfold Owner.connectionDisconnectionHandler Owner.finishReconnection
  refine .bind .get fun s => .ite (.pure _) (.bind (.modify hbegin) fun _ => ?_)
  refine .bind (h.notifyState_follows _) fun _ => .bind hothers fun _ => ?_
  refine .bind (h.reconnectLoop_follows attempts) fun left => .ite ?_ (.pure _)
  refine .bind (.bind .get fun s => .ite ?_ (.modify hend)) fun _ => .pure _
  exact .bind h.giveUp fun _ => .bind (h.notifyState_follows _) fun _ => .modify hend

end Within

end Owner

/-! ## The handlers of a connection -/

section Handlers

variable {σ ι : Type} {connection : Lens σ RedisConnection} {R : σ → σ → Prop}

/-- What the two handlers of a connection do to it themselves are steps of `R`. -/
structure HandlersWithin (connection : Lens σ RedisConnection) (R : σ → σ → Prop) : Prop where
  parse : ∀ s builder, R s (connection.update (fun c => { c with builder := builder }) s)
  asyncRead : Follows R (connection.zoom (RedisConnection.tcp.zoom TcpClient.asyncRead))
  clear : ∀ s, R s (connection.update RedisConnection.clear s)

namespace HandlersWithin

/-- By induction on the number of turns. -/
theorem deliver_follows (h : HandlersWithin connection R)
    {receive : Option ι → Reply → EStateM Fault σ Unit} {inputs : List ι}
    (hreceive : ∀ input : Option ι, (∀ i ∈ input, i ∈ inputs) →
      ∀ reply, Follows R (receive input reply)) (n : Nat) :
    Follows R (deliver connection receive n inputs) := by
  induction n generalizing inputs with
  | zero => exact .pure _
  | succ n ih =>
    intro s
    rw [deliver, after_get_bind]
    dsimp only
    cases (connection.get s).builder.availableReplies with
    | nil => exact .refl
    | cons reply rest =>
      refine .trans (.single (h.parse s { (connection.get s).builder with
        availableReplies := rest })) ?_
      have hfirst := hreceive inputs.head? (fun i hi => List.mem_of_head? hi) reply
      have hrest : Follows R (deliver connection receive n inputs.tail) :=
        ih fun input hinput => hreceive input fun i hi => List.mem_of_mem_tail (hinput i hi)
      exact (Follows.ite (.bind hfirst fun _ => hrest) hrest) _

variable (connection) in
theorem callDisconnectionHandler_follows {disconnected : EStateM Fault σ Bool}
    (hdisconnected : Follows R disconnected) :
    Follows R (callDisconnectionHandler connection disconnected) :=
  .bind .get fun _ => .ite hdisconnected (.pure _)

theorem tcpClientReceiveHandler_follows (h : HandlersWithin connection R)
    {receive : Option ι → Reply → EStateM Fault σ Unit} {disconnected : EStateM Fault σ Bool}
    {inputs : List ι} (hreceive : ∀ input : Option ι, (∀ i ∈ input, i ∈ inputs) →
      ∀ reply, Follows R (receive input reply))
    (hdisconnected : Follows R disconnected) (result : ReadResult) :
    Follows R (tcpClientReceiveHandler connection receive disconnected result inputs) := by
  cases result with
  | none => exact .pure _
  | some data =>
    intro s
    unfold tcpClientReceiveHandler
    rw [after_get_bind]
    dsimp only
    rcases (connection.get s).builder.feed data with ⟨builder, outcome⟩
    refine .trans (.single (h.parse s builder)) ?_
    cases outcome with
    | error e =>
      cases e with
      | redisError what => exact callDisconnectionHandler_follows connection hdisconnected _
      | _ => exact .refl
    | ok u =>
      refine (Follows.bind (h.deliver_follows hreceive _) fun _ => ?_) _
      exact .bind (.tryCatch h.asyncRead fun _ => .ite (.pure _) (.throw _)) fun _ => .pure _

theorem tcpClientDisconnectionHandler_follows (h : HandlersWithin connection R)
    {disconnected : EStateM Fault σ Bool} (hdisconnected : Follows R disconnected) :
    Follows R (tcpClientDisconnectionHandler connection disconnected) :=
  .bind (.modify h.clear) fun _ => callDisconnectionHandler_follows connection hdisconnected

end HandlersWithin

end Handlers

/-! ## The client -/

namespace Client

variable {κ : Type}

/-- A public function of the client, or a part of `connect`. -/
inductive Call (c : Client κ) : Client κ → Prop
  | session {s : Session} (h : Session.Call c.toSession s) : Call c (session.set s c)
  | send (redisCmd : Command) (callback : Option κ) : Call c (c.send redisCmd callback)
  | auth (password : Bytes) (callback : Option κ) : Call c (c.auth password callback)
  | select (index : Int) (callback : Option κ) : Call c (c.select index callback)
  | commit : Call c (after commit c)
  | disconnect : Call c c.disconnect

/-- A callback does nothing else than the user's code does. -/
theorem react_follows {R : Client κ → Client κ → Prop} (callback : Option (Callback κ))
    {user : EStateM Fault (Client κ) Unit} (huser : Follows R user) :
    Follows R (react callback user) := by
  unfold react
  split
  · exact huser
  · exact .pure _

/-- The handler of replies itself takes an entry, for which it makes the call, and counts down. -/
theorem connectionReceiveHandler_follows {R : Client κ → Client κ → Prop}
    (hanswer : ∀ c reply, R c (c.answerFront reply)) (hdown : ∀ c, R c c.countDown)
    {user : Option (EStateM Fault (Client κ) Unit)} (huser : ∀ p ∈ user, Follows R p)
    (reply : Reply) : Follows R (connectionReceiveHandler user reply) := by
  intro c
  refine .head (hanswer c reply) ?_
  refine (Follows.bind (react_follows _ ?_) fun _ => .modify hdown) (c.answerFront reply)
  cases user with
  | none => exact .pure _
  | some p => exact huser p rfl

end Client

/-! ## The subscriber -/

namespace Subscriber

variable {κ : Type}

/-- A public function of the subscriber, or a part of `connect`. -/
inductive Call (s : Subscriber κ) : Subscriber κ → Prop
  | session {t : Session} (h : Session.Call s.toSession t) : Call s (session.set t s)
  | auth (password : Bytes) (callback : Option κ) : Call s (s.auth password callback)
  | subscribe (channel : Bytes) (callback acknowledgement : Option κ) :
      Call s (s.subscribe channel callback acknowledgement)
  | psubscribe (pattern : Bytes) (callback acknowledgement : Option κ) :
      Call s (s.psubscribe pattern callback acknowledgement)
  | unsubscribe (channel : Bytes) : Call s (s.unsubscribe channel)
  | punsubscribe (pattern : Bytes) : Call s (s.punsubscribe pattern)
  | commit : Call s (after commit s)
  | disconnect : Call s s.disconnect

end Subscriber

end CppRedis
