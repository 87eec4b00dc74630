import CppRedis.Session

/-!
# The client

The class `client`, generic in the type `κ` of the user's callbacks: a callback
is known by its name, and what it does when it is called is an input of the call.
The functions that cannot throw are functions of the state.

`pushed`, `handled`, `invoked` and `received` are its history: the entries ever
pushed to `m_commands`, a second entry for the same command not counted when it is
sent again; the entries popped, each with the reply that it was popped for; the
callbacks called, each with the reply that it was given; and the replies of the
server.
-/

namespace CppRedis

open Text Procedure

/-- A reply callback: one of the user's, or that of `re_auth` or `re_select`. -/
inductive Callback (κ : Type)
  | user (k : κ)
  | reAuth
  | reSelect
deriving DecidableEq, Repr

/-- `client::command_request`. The callback may be null. -/
structure CommandRequest (κ : Type) where
  command : Command
  callback : Option (Callback κ)
deriving DecidableEq, Repr

/-- `client`. A detached thread of `clear_callbacks` is its queue of entries.
`callbacksRunning` is an atomic `unsigned int`, which wraps around. -/
structure Client (κ : Type) extends Session where
  databaseIndex : Int := 0
  commands : List (CommandRequest κ) := []
  callbacksRunning : UInt32 := 0
  failureThreads : List (List (CommandRequest κ)) := []
  pushed : List (CommandRequest κ) := []
  handled : List (CommandRequest κ × Reply) := []
  invoked : List (Callback κ × Reply) := []
  received : List Reply := []

theorem filterMap_singleton {α β : Type} (f : α → Option β) (a : α) :
    [a].filterMap f = (f a).toList := by
  cases h : f a with
  | none => exact List.filterMap_cons_none h
  | some b => exact List.filterMap_cons_some h

/-- The reply that a failure thread makes up. -/
def networkFailure : Reply :=
  .ofString (ascii "network failure") .error

namespace Client

variable {κ : Type}

/-! ## Components -/

/-- The members shared with `subscriber`. -/
def session : Lens (Client κ) Session where
  get c := c.toSession
  set s c := { c with toSession := s }
  get_set _ _ := rfl
  set_get _ := rfl

/-- `m_client`. -/
def connection : Lens (Client κ) RedisConnection where
  get c := c.client
  set r c := { c with client := r }
  get_set _ _ := rfl
  set_get _ := rfl

/-! ## Sending -/

/-- `unprotected_send`. -/
def unprotectedSend (request : CommandRequest κ) (c : Client κ) : Client κ :=
  { c with
    client := c.client.send request.command
    commands := c.commands ++ [request] }

/-- A push of a new entry, as against one that is sent again. -/
def push (request : CommandRequest κ) (c : Client κ) : Client κ :=
  { c with pushed := c.pushed ++ [request] }.unprotectedSend request

/-- `send`. -/
def send (redisCmd : Command) (callback : Option κ) (c : Client κ) : Client κ :=
  c.push ⟨redisCmd, callback.map .user⟩

/-- `unprotected_auth`. -/
def unprotectedAuth (password : Bytes) (callback : Option (Callback κ)) (c : Client κ) : Client κ :=
  { c with password := password }.push ⟨[ascii "AUTH", password], callback⟩

/-- `auth`. -/
def auth (password : Bytes) (callback : Option κ) (c : Client κ) : Client κ :=
  c.unprotectedAuth password (callback.map .user)

/-- `unprotected_select`. -/
def unprotectedSelect (index : Int) (callback : Option (Callback κ)) (c : Client κ) : Client κ :=
  { c with databaseIndex := index }.push ⟨[ascii "SELECT", decimalInt index], callback⟩

/-- `select`. -/
def select (index : Int) (callback : Option κ) (c : Client κ) : Client κ :=
  c.unprotectedSelect index (callback.map .user)

/-! ## Failing -/

/-- `clear_callbacks`. The queue that is moved from is left empty. -/
def clearCallbacks (c : Client κ) : Client κ :=
  if c.commands.isEmpty then c
  else
    { c with
      commands := []
      callbacksRunning := c.callbacksRunning + .ofNat c.commands.length
      failureThreads := c.failureThreads ++ [c.commands] }

theorem clearCallbacks_client (c : Client κ) : c.clearCallbacks.client = c.client := by
  unfold clearCallbacks
  split <;> rfl

/-- `try_commit`. -/
def tryCommit : EStateM Fault (Client κ) Unit := do
  try connection.zoom RedisConnection.commit
  catch e =>
    if let .redisError _ := e then modify clearCallbacks
    throw e

/-- `commit`. -/
def commit : EStateM Fault (Client κ) Unit := do
  if !(← get).reconnecting then tryCommit

/-- `disconnect`. -/
def disconnect (c : Client κ) : Client κ :=
  { c with client := c.client.disconnect }.clearCallbacks

/-! ## Replies -/

/-- A call of a callback, unless it is null, is recorded as it is made. -/
def record (callback : Option (Callback κ)) (reply : Reply) (c : Client κ) : Client κ :=
  { c with invoked := c.invoked ++ (callback.map fun callback => (callback, reply)).toList }

/-- The call that is made for an entry, if it has a callback. -/
def callOf (entry : CommandRequest κ × Reply) : Option (Callback κ × Reply) :=
  entry.1.callback.map fun callback => (callback, entry.2)

/-- What a callback does: `user` is what one of the user does this time. Those of
`re_auth` and `re_select` only write to the log. In the default build, which is the one
modelled here, there is none and they do nothing; with `LOGGING_ENABLED` they throw where the
reply is no string. -/
def react (callback : Option (Callback κ)) (user : EStateM Fault (Client κ) Unit) :
    EStateM Fault (Client κ) Unit :=
  match callback with
  | some (.user _) => user
  | _ => pure ()

/-- `if (callback) callback(reply)`. -/
def invoke (callback : Option (Callback κ)) (reply : Reply) (user : EStateM Fault (Client κ) Unit) :
    EStateM Fault (Client κ) Unit := do
  modify (record callback reply)
  react callback user

/-- Counting up and popping, under the lock of `connection_receive_handler`. -/
def popCommand (reply : Reply) (c : Client κ) : Client κ :=
  { c with
    callbacksRunning := c.callbacksRunning + 1
    commands := c.commands.tail
    handled := c.handled ++ (c.commands.head?.map fun request => (request, reply)).toList
    received := c.received ++ [reply] }

/-- The state in which the callback starts that a reply is for. -/
def answerFront (reply : Reply) (c : Client κ) : Client κ :=
  (c.popCommand reply).record (c.commands.head?.bind CommandRequest.callback) reply

/-- Counting down. -/
def countDown (c : Client κ) : Client κ :=
  { c with callbacksRunning := c.callbacksRunning - 1 }

/-- `connection_receive_handler`. -/
def connectionReceiveHandler (user : Option (EStateM Fault (Client κ) Unit)) (reply : Reply) :
    EStateM Fault (Client κ) Unit := do
  let callback := (← get).commands.head?.bind CommandRequest.callback
  modify (popCommand reply)
  invoke callback reply (user.getD (pure ()))
  modify countDown

/-- The `i`-th failure thread takes an entry from the front of its queue. -/
def popFailed (i : Nat) (request : CommandRequest κ) (rest : List (CommandRequest κ))
    (c : Client κ) : Client κ :=
  { c with
    failureThreads := c.failureThreads.set i rest
    handled := c.handled ++ [(request, networkFailure)] }

/-- The state in which the callback of that entry starts. -/
def failFront (i : Nat) (request : CommandRequest κ) (rest : List (CommandRequest κ))
    (c : Client κ) : Client κ :=
  (c.popFailed i request rest).record request.callback networkFailure

/-- A turn of the loop of the `i`-th failure thread. -/
def failureStep (i : Nat) (user : EStateM Fault (Client κ) Unit) :
    EStateM Fault (Client κ) Unit := do
  match (← get).failureThreads[i]? with
  | some (request :: rest) =>
    modify (popFailed i request rest)
    invoke request.callback networkFailure user
    modify countDown
  | _ => pure ()

/-! ## Reconnecting -/

/-- `resend_failed_commands`. -/
def resendFailedCommands (c : Client κ) : Client κ :=
  if c.commands.isEmpty then c
  else c.commands.foldl (fun c request => c.unprotectedSend request) { c with commands := [] }

/-- `re_auth`. -/
def reAuth (c : Client κ) : Client κ :=
  if c.password.isEmpty then c else c.unprotectedAuth c.password (some .reAuth)

/-- `re_select`. -/
def reSelect (c : Client κ) : Client κ :=
  if c.databaseIndex ≤ 0 then c else c.unprotectedSelect c.databaseIndex (some .reSelect)

/-- The last lines of `reconnect`. -/
def resume : EStateM Fault (Client κ) Unit := do
  modify reAuth
  modify reSelect
  modify resendFailedCommands
  tryCommit

/-- The client as the owner of its session; `notify` is what the connect callback does. -/
def owner (notify : Notification → EStateM Fault (Client κ) Unit) : Owner (Client κ) where
  session := session
  notify := notify
  resume := resume
  giveUp := modify clearCallbacks

section Owner

variable (notify : Notification → EStateM Fault (Client κ) Unit)

/-- `connect`, by host and port. -/
def connect (p : Session.ConnectParams) (accepted : Bool) : EStateM Fault (Client κ) Unit :=
  (owner notify).connect p accepted

/-- `connect`, by the name of the master. -/
def connectByName (name : Bytes) (p : Session.ConnectParams) (lookup : Lookup) (accepted : Bool) :
    EStateM Fault (Client κ) Unit :=
  (owner notify).connectByName "cpp_redis::client::connect() could not find master for name " name p
    lookup accepted

/-- `reconnect`. -/
def reconnect (a : Attempt) : EStateM Fault (Client κ) Unit :=
  (owner notify).reconnect a

/-- `connection_disconnection_handler`. -/
def connectionDisconnectionHandler (others : Client κ → Client κ) (attempts : List Attempt) :
    EStateM Fault (Client κ) Bool :=
  (owner notify).connectionDisconnectionHandler others attempts

/-! ## Events -/

/-- A read completes. -/
def receive (result : ReadResult) (users : List (EStateM Fault (Client κ) Unit))
    (others : Client κ → Client κ) (attempts : List Attempt) : EStateM Fault (Client κ) Bool :=
  tcpClientReceiveHandler connection connectionReceiveHandler
    (connectionDisconnectionHandler notify others attempts) result users

/-- The connection is lost. `before` is what other threads call between the loss
and its handler. -/
def drop (before others : Client κ → Client κ) (attempts : List Attempt) :
    EStateM Fault (Client κ) Bool := do
  modify (connection.update RedisConnection.lose)
  modify before
  tcpClientDisconnectionHandler connection (connectionDisconnectionHandler notify others attempts)

end Owner

end Client

end CppRedis
