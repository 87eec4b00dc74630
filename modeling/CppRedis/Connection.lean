import CppRedis.Builders
import CppRedis.Command
import CppRedis.Lib.Procedure

/-!
# The connection

`TcpClient` is what `redis_connection` relies on in a `tcp_client_iface`: a
connected client refuses to connect again and stays connected, a disconnected
one refuses to read and to write, and disconnecting drops the outstanding read
requests. Its other members are what can be observed of it: the connection
attempts, the buffers passed to `async_write`, each with whether it was taken, the
bytes that were taken on the current connection, and how many reads are outstanding.

`RedisConnection` is the class `redis_connection`. Its two handlers call back
into the object that owns it (a client, a subscriber, a sentinel), so they are
procedures of an owner `σ` of which the connection is a component.
-/

namespace CppRedis

open Text Procedure

/-! ## Exceptions -/

namespace Fault

/-- Whether a `catch (...)` sees it: undefined behaviour is not an exception. -/
def isException : Fault → Bool
  | .redisError _ => true
  | .stdException _ => true
  | .outOfRange => false
  | .signedOverflow => false

/-- `throw redis_error(e.what())` in a `catch (const std::exception& e)`. -/
def toRedisError : Fault → Fault
  | .stdException what => .redisError what
  | e => e

end Fault

/-! ## The tcp client -/

/-- The arguments of a connection attempt. -/
structure Endpoint where
  host : Bytes
  port : Nat
  timeoutMsecs : Nat
deriving DecidableEq, Repr

/-- A `tcp_client_iface`, as far as it can be observed. `what` is the text of the
exceptions it throws. -/
structure TcpClient where
  connected : Bool := false
  reads : Nat := 0
  written : Bytes := []
  handed : List (Bytes × Bool) := []
  dialled : List Endpoint := []
  what : String := ""
deriving DecidableEq, Repr

namespace TcpClient

/-- The exception that a refused call throws. -/
def refusal (t : TcpClient) : Fault :=
  .stdException t.what

/-- `accepted` tells what the other side does. -/
def connect (endpoint : Endpoint) (accepted : Bool) : EStateM Fault TcpClient Unit := fun t =>
  if t.connected || !accepted then .error t.refusal { t with dialled := t.dialled ++ [endpoint] }
  else
    .ok () { t with
      connected := true, reads := 0, written := [], dialled := t.dialled ++ [endpoint] }

/-- `disconnect`, and what a lost connection is left as. -/
def disconnect (t : TcpClient) : TcpClient :=
  { t with connected := false, reads := 0 }

def asyncRead : EStateM Fault TcpClient Unit := fun t =>
  if t.connected then .ok () { t with reads := t.reads + 1 } else .error t.refusal t

def asyncWrite (buffer : Bytes) : EStateM Fault TcpClient Unit := fun t =>
  if t.connected then
    .ok () { t with written := t.written ++ buffer, handed := t.handed ++ [(buffer, true)] }
  else .error t.refusal { t with handed := t.handed ++ [(buffer, false)] }

end TcpClient

/-! ## `redis_connection` -/

/-- `redis_connection`. Of its two callbacks it matters here whether they are set. -/
structure RedisConnection where
  client : TcpClient := {}
  replyCallback : Bool := false
  disconnectionHandler : Bool := false
  builder : ReplyBuilder := {}
  buffer : Bytes := []

namespace RedisConnection

/-- The tcp client of the connection. -/
def tcp : Lens RedisConnection TcpClient where
  get c := c.client
  set t c := { c with client := t }
  get_set _ _ := rfl
  set_get _ := rfl

/-- `connect`. The port is narrowed to 32 bits, and the callbacks are set once
the first read has been requested. -/
def connect (host : Bytes) (port : Nat) (disconnectionHandler replyCallback : Bool)
    (timeoutMsecs : Nat) (accepted : Bool) : EStateM Fault RedisConnection Unit := do
  try
    tcp.zoom (TcpClient.connect ⟨host, port % 2 ^ 32, timeoutMsecs⟩ accepted)
    tcp.zoom TcpClient.asyncRead
  catch e => throw e.toRedisError
  modify fun c =>
    { c with replyCallback := replyCallback, disconnectionHandler := disconnectionHandler }

def disconnect (c : RedisConnection) : RedisConnection :=
  { c with client := c.client.disconnect, buffer := [], builder := c.builder.reset }

def isConnected (c : RedisConnection) : Bool :=
  c.client.connected

/-- `send`. -/
def send (redisCmd : Command) (c : RedisConnection) : RedisConnection :=
  { c with buffer := c.buffer ++ buildCommand redisCmd }

/-- `commit`: the buffer is moved out before the write is tried. -/
def commit : EStateM Fault RedisConnection Unit := do
  let buffer := (← get).buffer
  modify fun c => { c with buffer := [] }
  try tcp.zoom (TcpClient.asyncWrite buffer)
  catch e => throw e.toRedisError

/-- The connection is lost; its handler has not run yet. -/
def lose (c : RedisConnection) : RedisConnection :=
  { c with client := c.client.disconnect }

/-- The first lines of `tcp_client_disconnection_handler`. -/
def clear (c : RedisConnection) : RedisConnection :=
  { c with buffer := [], builder := c.builder.reset }

/-! ### What the calls do -/

/-- A connection that was accepted: it is read, and nothing was written to it. -/
def accept (c : RedisConnection) (endpoint : Endpoint) (disconnectionHandler replyCallback : Bool) :
    RedisConnection :=
  { c with
    client := { c.client with
      connected := true, reads := 1, written := [], dialled := c.client.dialled ++ [endpoint] }
    replyCallback := replyCallback
    disconnectionHandler := disconnectionHandler }

/-- A connection attempt that failed. -/
def refuse (c : RedisConnection) (endpoint : Endpoint) : RedisConnection :=
  { c with client := { c.client with dialled := c.client.dialled ++ [endpoint] } }

theorem connect_accepted {c : RedisConnection} (host : Bytes) (port : Nat) (d r : Bool)
    (timeoutMsecs : Nat) (h : c.client.connected = false) :
    connect host port d r timeoutMsecs true c =
      .ok () (c.accept ⟨host, port % 2 ^ 32, timeoutMsecs⟩ d r) := by
  obtain ⟨⟨connected, reads, written, handed, dialled, what⟩, _, _, _, _⟩ := c
  cases h
  rfl

theorem connect_refused {c : RedisConnection} (host : Bytes) (port : Nat) (d r : Bool)
    (timeoutMsecs : Nat) {accepted : Bool} (h : c.client.connected = true ∨ accepted = false) :
    connect host port d r timeoutMsecs accepted c =
      .error (.redisError c.client.what) (c.refuse ⟨host, port % 2 ^ 32, timeoutMsecs⟩) := by
  obtain ⟨⟨connected, reads, written, handed, dialled, what⟩, _, _, _, _⟩ := c
  cases connected with
  | true => cases accepted <;> rfl
  | false =>
    obtain h | rfl := h
    · cases h
    · rfl

/-- The buffer was written to the connection. -/
def flush (c : RedisConnection) : RedisConnection :=
  { c with
    buffer := []
    client := { c.client with
      written := c.client.written ++ c.buffer, handed := c.client.handed ++ [(c.buffer, true)] } }

/-- The buffer was moved out and not taken. -/
def discard (c : RedisConnection) : RedisConnection :=
  { c with
    buffer := [], client := { c.client with handed := c.client.handed ++ [(c.buffer, false)] } }

theorem commit_connected {c : RedisConnection} (h : c.client.connected = true) :
    commit c = .ok () c.flush := by
  obtain ⟨⟨connected, reads, written, handed, dialled, what⟩, _, _, _, _⟩ := c
  cases h
  rfl

theorem commit_disconnected {c : RedisConnection} (h : c.client.connected = false) :
    commit c = .error (.redisError c.client.what) c.discard := by
  obtain ⟨⟨connected, reads, written, handed, dialled, what⟩, _, _, _, _⟩ := c
  cases h
  rfl

theorem commit_returns (c : RedisConnection) : Returns commit c ↔ c.client.connected = true := by
  cases hc : c.client.connected with
  | true => exact ⟨fun _ => rfl, fun _ => ⟨_, _, commit_connected hc⟩⟩
  | false =>
    refine ⟨fun h => ?_, fun h => absurd h Bool.false_ne_true⟩
    exact absurd h (not_returns_of_error (commit_disconnected hc))

end RedisConnection

/-! ## The handlers -/

/-- `read_result`: the bytes that were read, or nothing when the read failed. -/
abbrev ReadResult := Option Bytes

section Handlers

variable {σ ι β : Type} (connection : Lens σ RedisConnection)

/-- The loop over the replies that are available; `reply_available`, `get_front`
and `pop_front` at each turn. The `i`-th input goes to the `i`-th call of the
callback. A callback can drop replies and cannot make some available, so the
number available at the start bounds the turns. -/
def deliver (receive : Option ι → Reply → EStateM Fault σ Unit) :
    Nat → List ι → EStateM Fault σ Unit
  | 0, _ => pure ()
  | n + 1, inputs => do
    let c := connection.get (← get)
    match c.builder.availableReplies with
    | [] => pure ()
    | reply :: rest =>
      modify (connection.set { c with builder := { c.builder with availableReplies := rest } })
      if c.replyCallback then receive inputs.head? reply
      deliver receive n inputs.tail

/-- `call_disconnection_handler`. -/
def callDisconnectionHandler (disconnected : EStateM Fault σ Bool) : EStateM Fault σ Bool := do
  if (connection.get (← get)).disconnectionHandler then disconnected else pure true

/-- `tcp_client_receive_handler`. The returned value is that of the disconnection
handler, if it was called. -/
def tcpClientReceiveHandler (receive : Option ι → Reply → EStateM Fault σ Unit)
    (disconnected : EStateM Fault σ Bool) (result : ReadResult) (inputs : List ι) :
    EStateM Fault σ Bool := do
  match result with
  | none => pure true
  | some data =>
    let c := connection.get (← get)
    let (builder, outcome) := c.builder.feed data
    modify (connection.set { c with builder := builder })
    match outcome with
    | .error (.redisError _) => callDisconnectionHandler connection disconnected
    | .error e => throw e
    | .ok () =>
      deliver connection receive builder.availableReplies.length inputs
      try connection.zoom (RedisConnection.tcp.zoom TcpClient.asyncRead)
      catch e => if e.isException then pure () else throw e
      pure true

/-- `tcp_client_disconnection_handler`. -/
def tcpClientDisconnectionHandler (disconnected : EStateM Fault σ Bool) : EStateM Fault σ Bool := do
  modify (connection.update RedisConnection.clear)
  callDisconnectionHandler connection disconnected

end Handlers

end CppRedis
