import CppRedis.Session

/-!
# The subscriber

The class `subscriber`, generic in the type `κ` of the user's callbacks: a callback
is known by its name, and what it does when it is called is an input of the call.
A `std::map` with keys of type `std::string` is a tree map over byte strings: both
go through their keys in the order of the bytes.

`invoked` is its history: the calls of the user's callbacks, with their arguments.
-/

namespace CppRedis

open Text Procedure

/-- `subscriber::callback_holder`. Both callbacks may be null. -/
structure CallbackHolder (κ : Type) where
  subscribeCallback : Option κ
  acknowledgementCallback : Option κ
deriving DecidableEq, Repr

/-- The callback of an `AUTH`: one of the user's, or that of `re_auth`, which only writes to the
log and does nothing in the default build. -/
inductive AuthCallback (κ : Type)
  | user (k : κ)
  | reAuth
deriving DecidableEq, Repr

/-- A call of one of the user's callbacks. -/
inductive Invocation (κ : Type)
  | auth (callback : κ) (reply : Reply)
  | acknowledgement (callback : κ) (nbChans : Int)
  | message (callback : κ) (channel message : Bytes)

/-- `std::map<std::string, callback_holder>`. -/
abbrev Subscriptions (κ : Type) := Std.TreeMap Bytes (CallbackHolder κ)

/-- `subscriber`. -/
structure Subscriber (κ : Type) extends Session where
  subscribedChannels : Subscriptions κ := ∅
  psubscribedChannels : Subscriptions κ := ∅
  authReplyCallback : Option (AuthCallback κ) := none
  invoked : List (Invocation κ) := []

namespace Subscriber

variable {κ : Type}

/-! ## Components -/

/-- The members shared with `client`. -/
def session : Lens (Subscriber κ) Session where
  get s := s.toSession
  set t s := { s with toSession := t }
  get_set _ _ := rfl
  set_get _ := rfl

/-- `m_client`. -/
def connection : Lens (Subscriber κ) RedisConnection where
  get s := s.client
  set r s := { s with client := r }
  get_set _ _ := rfl
  set_get _ := rfl

/-! ## Sending -/

/-- `m_client.send`. -/
def sendCommand (redisCmd : Command) (s : Subscriber κ) : Subscriber κ :=
  { s with client := s.client.send redisCmd }

/-- The body of `auth`. -/
def authWith (password : Bytes) (callback : Option (AuthCallback κ)) (s : Subscriber κ) :
    Subscriber κ :=
  { s with password := password, authReplyCallback := callback }.sendCommand
    [ascii "AUTH", password]

/-- `auth`. -/
def auth (password : Bytes) (callback : Option κ) (s : Subscriber κ) : Subscriber κ :=
  s.authWith password (callback.map .user)

/-- `unprotected_subscribe`. -/
def unprotectedSubscribe (channel : Bytes) (holder : CallbackHolder κ) (s : Subscriber κ) :
    Subscriber κ :=
  { s with subscribedChannels := s.subscribedChannels.insert channel holder }.sendCommand
    [ascii "SUBSCRIBE", channel]

/-- `subscribe`. -/
def subscribe (channel : Bytes) (callback acknowledgement : Option κ) (s : Subscriber κ) :
    Subscriber κ :=
  s.unprotectedSubscribe channel ⟨callback, acknowledgement⟩

/-- `unprotected_psubscribe`. -/
def unprotectedPsubscribe (pattern : Bytes) (holder : CallbackHolder κ) (s : Subscriber κ) :
    Subscriber κ :=
  { s with psubscribedChannels := s.psubscribedChannels.insert pattern holder }.sendCommand
    [ascii "PSUBSCRIBE", pattern]

/-- `psubscribe`. -/
def psubscribe (pattern : Bytes) (callback acknowledgement : Option κ) (s : Subscriber κ) :
    Subscriber κ :=
  s.unprotectedPsubscribe pattern ⟨callback, acknowledgement⟩

/-- `unsubscribe`. -/
def unsubscribe (channel : Bytes) (s : Subscriber κ) : Subscriber κ :=
  if s.subscribedChannels.contains channel then
    { s.sendCommand [ascii "UNSUBSCRIBE", channel] with
      subscribedChannels := s.subscribedChannels.erase channel }
  else s

/-- `punsubscribe`. -/
def punsubscribe (pattern : Bytes) (s : Subscriber κ) : Subscriber κ :=
  if s.psubscribedChannels.contains pattern then
    { s.sendCommand [ascii "PUNSUBSCRIBE", pattern] with
      psubscribedChannels := s.psubscribedChannels.erase pattern }
  else s

/-- `commit`. It does not look at `m_reconnecting`. -/
def commit : EStateM Fault (Subscriber κ) Unit :=
  connection.zoom RedisConnection.commit

/-- `disconnect`. -/
def disconnect (s : Subscriber κ) : Subscriber κ :=
  { s with client := s.client.disconnect }

/-! ## Replies

`user` is what the callback does that is called this time, if one is called. -/

/-- A callback of the user is called. -/
def invoke (invocation : Invocation κ) (user : EStateM Fault (Subscriber κ) Unit) :
    EStateM Fault (Subscriber κ) Unit := do
  modify fun s => { s with invoked := s.invoked ++ [invocation] }
  user

/-- `call_acknowledgement_callback`. -/
def callAcknowledgementCallback (user : EStateM Fault (Subscriber κ) Unit) (channel : Bytes)
    (channels : Subscriptions κ) (nbChans : Int) : EStateM Fault (Subscriber κ) Unit :=
  match channels[channel]? with
  | none => pure ()
  | some it =>
    match it.acknowledgementCallback with
    | some callback => invoke (.acknowledgement callback nbChans) user
    | none => pure ()

/-- `handle_acknowledgement_reply`. -/
def handleAcknowledgementReply (user : EStateM Fault (Subscriber κ) Unit) (reply : List Reply) :
    EStateM Fault (Subscriber κ) Unit :=
  match reply with
  | [title, channel, nbChans] =>
    match title.asString, channel.asString, nbChans.asInteger with
    | .ok title, .ok channel, .ok nbChans => do
      let s ← get
      if title = ascii "subscribe" then
        callAcknowledgementCallback user channel s.subscribedChannels nbChans
      else if title = ascii "psubscribe" then
        callAcknowledgementCallback user channel s.psubscribedChannels nbChans
    | _, _, _ => pure ()
  | _ => pure ()

/-- The end of `handle_subscribe_reply` and of `handle_psubscribe_reply`. A call
of a null `std::function` throws. -/
def callMessageCallback (user : EStateM Fault (Subscriber κ) Unit) (key channel message : Bytes)
    (channels : Subscriptions κ) : EStateM Fault (Subscriber κ) Unit :=
  match channels[key]? with
  | none => pure ()
  | some it =>
    match it.subscribeCallback with
    | some callback => invoke (.message callback channel message) user
    | none => throw (.stdException "bad_function_call")

/-- `handle_subscribe_reply`. -/
def handleSubscribeReply (user : EStateM Fault (Subscriber κ) Unit) (reply : List Reply) :
    EStateM Fault (Subscriber κ) Unit :=
  match reply with
  | [title, channel, message] =>
    match title.asString, channel.asString, message.asString with
    | .ok title, .ok channel, .ok message => do
      if title = ascii "message" then
        callMessageCallback user channel channel message (← get).subscribedChannels
    | _, _, _ => pure ()
  | _ => pure ()

/-- `handle_psubscribe_reply`. -/
def handlePsubscribeReply (user : EStateM Fault (Subscriber κ) Unit) (reply : List Reply) :
    EStateM Fault (Subscriber κ) Unit :=
  match reply with
  | [title, pchannel, channel, message] =>
    match title.asString, pchannel.asString, channel.asString, message.asString with
    | .ok title, .ok pchannel, .ok channel, .ok message => do
      if title = ascii "pmessage" then
        callMessageCallback user pchannel channel message (← get).psubscribedChannels
    | _, _, _, _ => pure ()
  | _ => pure ()

/-- The first half of `connection_receive_handler`: a reply that is no array. The
callback of an `AUTH` is dropped once it was called. -/
def handleAuthReply (user : EStateM Fault (Subscriber κ) Unit) (reply : Reply) :
    EStateM Fault (Subscriber κ) Unit := do
  match (← get).authReplyCallback with
  | none => pure ()
  | some callback =>
    match callback with
    | .user callback => invoke (.auth callback reply) user
    | .reAuth => pure ()
    modify fun s => { s with authReplyCallback := none }

/-- `connection_receive_handler`. -/
def connectionReceiveHandler (user : Option (EStateM Fault (Subscriber κ) Unit)) (reply : Reply) :
    EStateM Fault (Subscriber κ) Unit :=
  let user := user.getD (pure ())
  match reply.asArray with
  | .error _ => handleAuthReply user reply
  | .ok array =>
    match array with
    | [_, _, last] =>
      if last.isInteger then handleAcknowledgementReply user array
      else if last.isString then handleSubscribeReply user array
      else pure ()
    | [_, _, _, _] => handlePsubscribeReply user array
    | _ => pure ()

/-! ## Reconnecting -/

/-- `clear_subscriptions`. -/
def clearSubscriptions (s : Subscriber κ) : Subscriber κ :=
  { s with subscribedChannels := ∅, psubscribedChannels := ∅ }

/-- `re_auth`. -/
def reAuth (s : Subscriber κ) : Subscriber κ :=
  if s.password.isEmpty then s else s.authWith s.password (some .reAuth)

/-- `re_subscribe`. A map that is moved from is left empty. -/
def reSubscribe (s : Subscriber κ) : Subscriber κ :=
  let s := s.subscribedChannels.toList.foldl
    (fun s chan => s.unprotectedSubscribe chan.1 chan.2) { s with subscribedChannels := ∅ }
  s.psubscribedChannels.toList.foldl
    (fun s chan => s.unprotectedPsubscribe chan.1 chan.2) { s with psubscribedChannels := ∅ }

/-- The last lines of `reconnect`. -/
def resume : EStateM Fault (Subscriber κ) Unit := do
  modify reAuth
  modify reSubscribe
  commit

/-- The subscriber as the owner of its session; `notify` is what the connect callback does. -/
def owner (notify : Notification → EStateM Fault (Subscriber κ) Unit) : Owner (Subscriber κ) where
  session := session
  notify := notify
  resume := resume
  giveUp := modify clearSubscriptions

section Owner

variable (notify : Notification → EStateM Fault (Subscriber κ) Unit)

/-- `connect`, by host and port. -/
def connect (p : Session.ConnectParams) (accepted : Bool) : EStateM Fault (Subscriber κ) Unit :=
  (owner notify).connect p accepted

/-- `connect`, by the name of the master. -/
def connectByName (name : Bytes) (p : Session.ConnectParams) (lookup : Lookup) (accepted : Bool) :
    EStateM Fault (Subscriber κ) Unit :=
  (owner notify).connectByName "cpp_redis::subscriber::connect() could not find master for name "
    name p lookup accepted

/-- `reconnect`. -/
def reconnect (a : Attempt) : EStateM Fault (Subscriber κ) Unit :=
  (owner notify).reconnect a

/-- `connection_disconnection_handler`. -/
def connectionDisconnectionHandler (others : Subscriber κ → Subscriber κ)
    (attempts : List Attempt) : EStateM Fault (Subscriber κ) Bool :=
  (owner notify).connectionDisconnectionHandler others attempts

/-! ## Events -/

/-- A read completes. -/
def receive (result : ReadResult) (users : List (EStateM Fault (Subscriber κ) Unit))
    (others : Subscriber κ → Subscriber κ) (attempts : List Attempt) :
    EStateM Fault (Subscriber κ) Bool :=
  tcpClientReceiveHandler connection connectionReceiveHandler
    (connectionDisconnectionHandler notify others attempts) result users

/-- The connection is lost. `before` is what other threads call between the loss
and its handler. -/
def drop (before others : Subscriber κ → Subscriber κ) (attempts : List Attempt) :
    EStateM Fault (Subscriber κ) Bool := do
  modify (connection.update RedisConnection.lose)
  modify before
  tcpClientDisconnectionHandler connection (connectionDisconnectionHandler notify others attempts)

end Owner

end Subscriber

end CppRedis
