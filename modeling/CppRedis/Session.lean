import CppRedis.Connection

/-!
# Connecting and reconnecting

`client` and `subscriber` share, word for word, the members and the functions
that connect, notice a lost connection and reconnect. `Session` holds these
members; the functions are written once, for an `Owner`: an object with a
session, the calls of its connect callback, what it sends when it is connected
again (`resume`) and what it does when it gives up (`giveUp`).

What the outside does during one turn of the reconnection loop is an `Attempt`.
The loop runs over a list of attempts and may still want to go on at its end:
the value that the handler returns tells whether it was left.
-/

namespace CppRedis

open Text Procedure

/-! ## Members -/

/-- `connect_state`. -/
inductive ConnectState
  | dropped
  | start
  | sleeping
  | ok
  | failed
  | lookupFailed
  | stopped
deriving DecidableEq, Repr

/-- The arguments of a connect callback. -/
structure Notification where
  host : Bytes
  port : Nat
  state : ConnectState
deriving DecidableEq, Repr

/-- `sentinel::sentinel_def`. -/
structure SentinelDef where
  host : Bytes
  port : Nat
  timeoutMsecs : Nat
deriving DecidableEq, Repr

/-- What a session relies on in its `sentinel`: the sentinels that are registered. -/
structure Sentinel where
  sentinels : List SentinelDef := []
deriving DecidableEq, Repr

/-- How a lookup ends once there is a sentinel to ask: with the address in the
reply, without one (no sentinel could be reached, or it knew none), or with the
`redis_error` of a query that could not be sent. -/
inductive Lookup
  | found (host : Bytes) (port : Nat)
  | notFound
  | throws (what : String)
deriving DecidableEq, Repr

/-- The members that `client` and `subscriber` share, and the notifications so
far. Of the connect callback it matters here whether it is set. -/
structure Session where
  redisServer : Bytes := []
  redisPort : Nat := 0
  masterName : Bytes := []
  password : Bytes := []
  client : RedisConnection := {}
  sentinel : Sentinel := {}
  connectTimeoutMsecs : Nat := 0
  maxReconnects : Int := 0
  currentReconnectAttempts : Int := 0
  reconnectIntervalMsecs : Nat := 0
  reconnecting : Bool := false
  cancel : Bool := false
  connectCallback : Bool := false
  notified : List Notification := []

namespace Session

/-- `m_client`. -/
def connection : Lens Session RedisConnection where
  get s := s.client
  set c s := { s with client := c }
  get_set _ _ := rfl
  set_get _ := rfl

def isConnected (s : Session) : Bool :=
  s.client.isConnected

def cancelReconnect (s : Session) : Session :=
  { s with cancel := true }

def addSentinel (sentinel : SentinelDef) (s : Session) : Session :=
  { s with sentinel := { sentinels := s.sentinel.sentinels ++ [sentinel] } }

def clearSentinels (s : Session) : Session :=
  { s with sentinel := { sentinels := [] } }

/-- `m_sentinel.get_master_addr_by_name(m_master_name, m_redis_server, m_redis_port, true)`. -/
def getMasterAddrByName (lookup : Lookup) : EStateM Fault Session Bool := fun s =>
  let s := { s with redisServer := [], redisPort := 0 }
  if s.sentinel.sentinels.isEmpty then
    .error (.redisError
      "No sentinels available. Call add_sentinel() before get_master_addr_by_name()") s
  else
    match lookup with
    | .found host port => .ok (port != 0) { s with redisServer := host, redisPort := port }
    | .notFound => .ok false s
    | .throws what => .error (.redisError what) s

/-- The lookup touches the address of the server only. -/
theorem after_getMasterAddrByName (lookup : Lookup) (s : Session) :
    ∃ host port, after (getMasterAddrByName lookup) s =
      { s with redisServer := host, redisPort := port } := by
  unfold after getMasterAddrByName
  dsimp only
  by_cases hs : s.sentinel.sentinels.isEmpty = true
  · rw [if_pos hs]
    exact ⟨_, _, rfl⟩
  · rw [if_neg hs]
    cases lookup <;> exact ⟨_, _, rfl⟩

/-- The arguments of `connect`. -/
structure ConnectParams where
  host : Bytes
  port : Nat
  connectCallback : Bool := false
  timeoutMsecs : Nat := 0
  maxReconnects : Int := 0
  reconnectIntervalMsecs : Nat := 0

/-- The first lines of `connect`. The timeout is not saved. -/
def saveConnect (p : ConnectParams) (s : Session) : Session :=
  { s with
    redisServer := p.host
    redisPort := p.port
    connectCallback := p.connectCallback
    maxReconnects := p.maxReconnects
    reconnectIntervalMsecs := p.reconnectIntervalMsecs }

/-- The arguments with which `reconnect` calls `connect`. -/
def reconnectParams (s : Session) : ConnectParams where
  host := s.redisServer
  port := s.redisPort
  connectCallback := s.connectCallback
  timeoutMsecs := s.connectTimeoutMsecs
  maxReconnects := s.maxReconnects
  reconnectIntervalMsecs := s.reconnectIntervalMsecs

def shouldReconnect (s : Session) : Bool :=
  !s.isConnected && !s.cancel &&
    (s.maxReconnects == -1 || s.currentReconnectAttempts < s.maxReconnects)

theorem shouldReconnect_iff {s : Session} : s.shouldReconnect = true ↔
    s.isConnected = false ∧ s.cancel = false ∧
      (s.maxReconnects = -1 ∨ s.currentReconnectAttempts < s.maxReconnects) := by
  unfold shouldReconnect
  simp [and_assoc]

/-- Once it is connected, no more attempts are wanted. -/
theorem shouldReconnect_of_connected {s : Session} (h : s.isConnected = true) :
    s.shouldReconnect = false :=
  Bool.eq_false_iff.mpr fun hshould =>
    Bool.noConfusion ((shouldReconnect_iff.mp hshould).1.symm.trans h)

/-- The first lines of `connection_disconnection_handler`. -/
def beginReconnection (s : Session) : Session :=
  { s with reconnecting := true, currentReconnectAttempts := 0 }

def endReconnection (s : Session) : Session :=
  { s with reconnecting := false }

/-- The first line of `reconnect`. -/
def countAttempt (s : Session) : Session :=
  { s with currentReconnectAttempts := s.currentReconnectAttempts + 1 }

/-- The connection is lost while the session is reconnecting: the handler of the
connection runs, and that of the session returns at once. -/
def lose (s : Session) : Session :=
  { s with client := s.client.lose.clear }

/-- A notification is recorded as it is made. -/
def record (n : Notification) (s : Session) : Session :=
  { s with notified := s.notified ++ [n] }

end Session

/-- What the outside does during one turn of the reconnection loop: how the
lookup ends, whether the server accepts the connection, and whether the new
connection is lost again before the pending commands are written to it. -/
structure Attempt where
  lookup : Lookup := .notFound
  accepted : Bool
  lost : Bool := false

/-! ## Functions -/

/-- An object that owns a session. -/
structure Owner (σ : Type) where
  session : Lens σ Session
  notify : Notification → EStateM Fault σ Unit
  resume : EStateM Fault σ Unit
  giveUp : EStateM Fault σ Unit

namespace Owner

variable {σ : Type} (o : Owner σ)

/-- `if (m_connect_callback) m_connect_callback(host, port, state)`. -/
def callConnectCallback (host : Bytes) (port : Nat) (state : ConnectState) :
    EStateM Fault σ Unit := do
  if (o.session.get (← get)).connectCallback then
    modify (o.session.update (·.record ⟨host, port, state⟩))
    o.notify ⟨host, port, state⟩

/-- The same with `m_redis_server` and `m_redis_port`. -/
def notifyState (state : ConnectState) : EStateM Fault σ Unit := do
  let s := o.session.get (← get)
  o.callConnectCallback s.redisServer s.redisPort state

/-- `connect`, by host and port. -/
def connect (p : Session.ConnectParams) (accepted : Bool) : EStateM Fault σ Unit := do
  modify (o.session.update (·.saveConnect p))
  o.callConnectCallback p.host p.port .start
  o.session.zoom (Session.connection.zoom
    (RedisConnection.connect p.host p.port true true p.timeoutMsecs accepted))
  o.notifyState .ok

/-- `connect`, by the name of the master. `what` is the text of the error before the name. -/
def connectByName (what : String) (name : Bytes) (p : Session.ConnectParams) (lookup : Lookup)
    (accepted : Bool) : EStateM Fault σ Unit := do
  modify (o.session.update fun s => { s with masterName := name })
  if ← o.session.zoom (Session.getMasterAddrByName lookup) then
    let s := o.session.get (← get)
    o.connect { p with host := s.redisServer, port := s.redisPort } accepted
  else
    throw (.redisError (what ++ String.ofList (name.map fun c => Char.ofNat c.toNat)))

/-- `sleep_before_next_reconnect_attempt`. -/
def sleepBeforeNextReconnectAttempt : EStateM Fault σ Unit := do
  if (o.session.get (← get)).reconnectIntervalMsecs ≤ 0 then pure ()
  else o.notifyState .sleeping

/-- The lookup of the master, when the session was connected by name. -/
def findMaster (lookup : Lookup) : EStateM Fault σ Bool := do
  if (o.session.get (← get)).masterName.isEmpty then pure true
  else o.session.zoom (Session.getMasterAddrByName lookup)

/-- The part of `reconnect` that is inside of `try` and `catch (...)`. -/
def tryConnect (accepted : Bool) : EStateM Fault σ Unit := do
  let s := o.session.get (← get)
  try o.connect s.reconnectParams accepted
  catch e => if e.isException then pure () else throw e

/-- `reconnect`. -/
def reconnect (a : Attempt) : EStateM Fault σ Unit := do
  modify (o.session.update Session.countAttempt)
  if ← o.findMaster a.lookup then
    o.tryConnect a.accepted
    if (o.session.get (← get)).isConnected then
      o.notifyState .ok
      if a.lost then modify (o.session.update Session.lose)
      o.resume
    else
      o.notifyState .failed
  else
    o.notifyState .lookupFailed

/-- `while (should_reconnect()) { sleep_before_next_reconnect_attempt(); reconnect(); }`.
Returns whether the loop was left. -/
def reconnectLoop : List Attempt → EStateM Fault σ Bool
  | [] => do
    return !(o.session.get (← get)).shouldReconnect
  | a :: attempts => do
    if (o.session.get (← get)).shouldReconnect then
      o.sleepBeforeNextReconnectAttempt
      o.reconnect a
      reconnectLoop attempts
    else
      pure true

/-- The end of `connection_disconnection_handler`, after the loop. -/
def finishReconnection : EStateM Fault σ Unit := do
  if !(o.session.get (← get)).isConnected then
    o.giveUp
    o.notifyState .stopped
  modify (o.session.update Session.endReconnection)

/-- `connection_disconnection_handler`. Until it takes the lock, other threads may
call the object too: `others`. Returns whether it was left. -/
def connectionDisconnectionHandler (others : σ → σ) (attempts : List Attempt) :
    EStateM Fault σ Bool := do
  if (o.session.get (← get)).reconnecting then pure true
  else
    modify (o.session.update Session.beginReconnection)
    o.notifyState .dropped
    modify others
    if ← o.reconnectLoop attempts then
      o.finishReconnection
      pure true
    else
      pure false

end Owner

end CppRedis
