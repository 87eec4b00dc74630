import CppRedis.Session

/-!
# The sentinel

The class `sentinel`, generic in the type `κ` of the user's callbacks: a callback is known
by its name, and what it does when it is called is an input of the call. The functions
that cannot throw are functions of the state.

`m_callbacks` holds callbacks only. Here an entry remembers the command it was sent with,
and `pushed`, `handled` and `invoked` are the history: the entries ever pushed, those popped
with the reply they were handled with, and the callbacks called with what they were given.
-/

namespace CppRedis

open Text Procedure

/-- An entry of `m_callbacks`, and the command that was sent with it. The callback may be
null. -/
structure SentinelRequest (κ : Type) where
  command : Command
  callback : Option κ
deriving DecidableEq, Repr

/-- `sentinel`. Of its disconnect handler it matters here whether it is set. -/
structure SentinelClient (κ : Type) extends Sentinel where
  client : RedisConnection := {}
  callbacks : List (SentinelRequest κ) := []
  callbacksRunning : UInt32 := 0
  disconnectHandler : Bool := false
  pushed : List (SentinelRequest κ) := []
  handled : List (SentinelRequest κ × Reply) := []
  invoked : List (κ × Reply) := []

namespace SentinelClient

variable {κ : Type}

/-- `m_client`. -/
def connection : Lens (SentinelClient κ) RedisConnection where
  get s := s.client
  set r s := { s with client := r }
  get_set _ _ := rfl
  set_get _ := rfl

def isConnected (s : SentinelClient κ) : Bool :=
  s.client.isConnected

/-! ## Sending -/

/-- `send`. -/
def send (redisCmd : Command) (callback : Option κ) (s : SentinelClient κ) : SentinelClient κ :=
  { s with
    client := s.client.send redisCmd
    callbacks := s.callbacks ++ [⟨redisCmd, callback⟩]
    pushed := s.pushed ++ [⟨redisCmd, callback⟩] }

/-- `clear_callbacks`. The callbacks are not called. -/
def clearCallbacks (s : SentinelClient κ) : SentinelClient κ :=
  { s with callbacks := [] }

/-- `try_commit`. -/
def tryCommit : EStateM Fault (SentinelClient κ) Unit := do
  try connection.zoom RedisConnection.commit
  catch e =>
    if let .redisError _ := e then modify clearCallbacks
    throw e

/-- `commit`. -/
def commit : EStateM Fault (SentinelClient κ) Unit :=
  tryCommit

/-- `disconnect`. It leaves `m_callbacks` as it is. -/
def disconnect (s : SentinelClient κ) : SentinelClient κ :=
  { s with client := s.client.disconnect }

/-! ## Connecting -/

def addSentinel (sentinel : SentinelDef) (s : SentinelClient κ) : SentinelClient κ :=
  { s with sentinels := s.sentinels ++ [sentinel] }

def clearSentinels (s : SentinelClient κ) : SentinelClient κ :=
  { s with sentinels := [] }

/-- `connect`. -/
def connect (host : Bytes) (port : Nat) (disconnectHandler : Bool) (timeoutMsecs : Nat)
    (accepted : Bool) : EStateM Fault (SentinelClient κ) Unit := do
  connection.zoom (RedisConnection.connect host port true true timeoutMsecs accepted)
  modify fun s => { s with disconnectHandler := disconnectHandler }

/-- The loop of `connect_sentinel` over the sentinels. The `i`-th of `reachable` tells
whether the `i`-th one accepts. Returns `not_connected`. -/
def trySentinels : List SentinelDef → List Bool → EStateM Fault (SentinelClient κ) Bool
  | [], _ => pure true
  | it :: rest, reachable => do
    try
      connection.zoom (RedisConnection.connect it.host it.port true true it.timeoutMsecs
        (reachable.head?.getD false))
    catch e =>
      if let .redisError _ := e then pure () else throw e
    if (← get).isConnected then pure false
    else
      modify disconnect
      trySentinels rest reachable.tail

/-- `connect_sentinel`. -/
def connectSentinel (disconnectHandler : Bool) (reachable : List Bool) :
    EStateM Fault (SentinelClient κ) Unit := do
  if (← get).sentinels.isEmpty then
    throw (.redisError "No sentinels available. Call add_sentinel() before connect_sentinel()")
  if ← trySentinels (← get).sentinels reachable then
    throw (.redisError "Unable to connect to any sentinels")
  modify fun s => { s with disconnectHandler := disconnectHandler }

/-! ## Replies -/

/-- A call of a callback, unless it is null, is recorded as it is made. -/
def record (callback : Option κ) (reply : Reply) (s : SentinelClient κ) : SentinelClient κ :=
  { s with invoked := s.invoked ++ (callback.map fun callback => (callback, reply)).toList }

/-- The call that is made for an entry, if it has a callback. -/
def callOf (entry : SentinelRequest κ × Reply) : Option (κ × Reply) :=
  entry.1.callback.map fun callback => (callback, entry.2)

/-- `if (callback) callback(reply)`; `user` is what the callback does. -/
def invoke (callback : Option κ) (reply : Reply) (user : EStateM Fault (SentinelClient κ) Unit) :
    EStateM Fault (SentinelClient κ) Unit := do
  modify (record callback reply)
  if callback.isSome then user

/-- Counting up and popping, under the lock of `connection_receive_handler`. -/
def popCallback (reply : Reply) (s : SentinelClient κ) : SentinelClient κ :=
  { s with
    callbacksRunning := s.callbacksRunning + 1
    callbacks := s.callbacks.tail
    handled := s.handled ++ (s.callbacks.head?.map fun request => (request, reply)).toList }

/-- The state in which the callback starts that a reply is for. -/
def answerFront (reply : Reply) (s : SentinelClient κ) : SentinelClient κ :=
  (s.popCallback reply).record (s.callbacks.head?.bind SentinelRequest.callback) reply

/-- Counting down. -/
def countDown (s : SentinelClient κ) : SentinelClient κ :=
  { s with callbacksRunning := s.callbacksRunning - 1 }

/-- `connection_receive_handler`; `user` is what the callback does, if one is called. -/
def connectionReceiveHandler (user : Option (EStateM Fault (SentinelClient κ) Unit))
    (reply : Reply) : EStateM Fault (SentinelClient κ) Unit := do
  let callback := (← get).callbacks.head?.bind SentinelRequest.callback
  modify (popCallback reply)
  invoke callback reply (user.getD (pure ()))
  modify countDown

/-! ## Losing the connection -/

/-- `call_disconnect_handler`; `user` is what the handler does. -/
def callDisconnectHandler (user : EStateM Fault (SentinelClient κ) Unit) :
    EStateM Fault (SentinelClient κ) Unit := do
  if (← get).disconnectHandler then user

/-- `connection_disconnect_handler`. It is always left. -/
def connectionDisconnectHandler (user : EStateM Fault (SentinelClient κ) Unit) :
    EStateM Fault (SentinelClient κ) Bool := do
  modify clearCallbacks
  callDisconnectHandler user
  pure true

/-! ## Events -/

/-- A read completes. -/
def receive (result : ReadResult) (users : List (EStateM Fault (SentinelClient κ) Unit))
    (user : EStateM Fault (SentinelClient κ) Unit) : EStateM Fault (SentinelClient κ) Bool :=
  tcpClientReceiveHandler connection connectionReceiveHandler (connectionDisconnectHandler user)
    result users

/-- The connection is lost. -/
def drop (user : EStateM Fault (SentinelClient κ) Unit) : EStateM Fault (SentinelClient κ) Bool := do
  modify (connection.update RedisConnection.lose)
  tcpClientDisconnectionHandler connection (connectionDisconnectHandler user)

end SentinelClient

end CppRedis
