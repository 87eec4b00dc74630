import CppRedis.Calls
import CppRedis.Resend
import CppRedis.Lib.Machine

/-!
# Reading a connection

A connection is read by requests: `connect` makes the first one, and
`tcp_client_receive_handler` makes the next one in its last lines. This module
runs a `redis_connection` against every order of calls, lost connections and
reads, with callbacks that call the connection themselves, and tells when exactly
one request is outstanding on a connection that is open.

* `always_reading_iff`: in a run, this holds in every state if and only if it
  is restored by each step (`Resumes`), which can be read off the callbacks' calls.
  It is not where the handler leaves early (a failed read, a malformed reply, a
  callback that throws) and the connection stays open, nor where the callbacks
  have reconnected and the handler makes a second request.
* `deliver_ok`, `receive_ok`: the rules for the loop over the replies of a chunk, by
  something that holds with some of them left and is kept by each turn.
-/

namespace CppRedis

open Text Procedure

namespace RedisConnection

/-! ## Calls and callbacks -/

/-- A call of a public function; of `connect` also what the other side does. The
owner of a connection always sets both callbacks. -/
inductive Call
  | connect (host : Bytes) (port timeoutMsecs : Nat) (accepted : Bool)
  | disconnect
  | send (redisCmd : Command)
  | commit

def Call.apply (c : RedisConnection) : Call → RedisConnection
  | .connect host port timeoutMsecs accepted =>
    after (RedisConnection.connect host port true true timeoutMsecs accepted) c
  | .disconnect => c.disconnect
  | .send redisCmd => c.send redisCmd
  | .commit => after RedisConnection.commit c

/-- Calls one after the other. -/
def callAll (calls : List Call) (c : RedisConnection) : RedisConnection :=
  calls.foldl Call.apply c

/-- What a callback does this time: its calls, and what it throws at the end. A
callback that is null does nothing. -/
structure Script where
  calls : List Call := []
  thrown : Option Fault := none

def Script.run (s : Script) : EStateM Fault RedisConnection Unit := do
  modify (callAll s.calls)
  if let some e := s.thrown then throw e

/-- The reply callback, which does not look at the reply. -/
def runReplyCallback (script : Option Script) (_ : Reply) : EStateM Fault RedisConnection Unit :=
  (script.getD {}).run

/-- `pop_front`. -/
def popReply (rest : List Reply) (c : RedisConnection) : RedisConnection :=
  { c with builder := { c.builder with availableReplies := rest } }

/-! ## Runs -/

/-- What happens to a connection. When it is lost, other threads may call it
`before` its handler runs. A read that succeeds comes with the scripts of the
reply callbacks, and with that of the disconnection handler, which is called when
the bytes are malformed. -/
inductive Event
  | call (call : Call)
  | drop (before : List Call) (handler : Script)
  | failedRead
  | read (data : Bytes) (replies : List Script) (handler : Script)

/-- The tcp client completes a request that is outstanding. -/
def completeRead (c : RedisConnection) : RedisConnection :=
  { c with client := { c.client with reads := c.client.reads - 1 } }

/-- The handler of a completed read. -/
def received (result : ReadResult) (replies : List Script) (handler : Script) :
    EStateM Fault RedisConnection Bool :=
  tcpClientReceiveHandler Lens.id runReplyCallback
    (handler.run >>= fun _ => pure true) result replies

/-- The handler of a lost connection. -/
def dropped (handler : Script) : EStateM Fault RedisConnection Bool :=
  tcpClientDisconnectionHandler Lens.id (handler.run >>= fun _ => pure true)

/-- Only an open connection is lost, and only a request that is outstanding completes. -/
def Enabled (c : RedisConnection) : Event → Prop
  | .call _ => True
  | .drop _ _ => c.client.connected = true
  | .failedRead => 0 < c.client.reads
  | .read _ _ _ => 0 < c.client.reads

instance (c : RedisConnection) : (e : Event) → Decidable (Enabled c e)
  | .call _ => .isTrue trivial
  | .drop _ _ => inferInstanceAs (Decidable (_ = _))
  | .failedRead => inferInstanceAs (Decidable (_ < _))
  | .read _ _ _ => inferInstanceAs (Decidable (_ < _))

def step (c : RedisConnection) : Event → RedisConnection
  | .call call => call.apply c
  | .drop before handler => after (dropped handler) (c.lose.callAll before)
  | .failedRead => after (received none [] {}) c.completeRead
  | .read data replies handler => after (received (some data) replies handler) c.completeRead

/-- A connection and what happens to it. -/
def machine : Machine RedisConnection Event :=
  ⟨Enabled, step⟩

instance (c : RedisConnection) (e : Event) : Decidable (machine.enabled c e) :=
  inferInstanceAs (Decidable (Enabled c e))

/-- If the connection is open, exactly one request is outstanding. -/
def Reading (c : RedisConnection) : Prop :=
  c.client.connected = true → c.client.reads = 1

instance : DecidablePred Reading :=
  fun c => inferInstanceAs (Decidable (c.client.connected = true → c.client.reads = 1))

/-! ## Links

While a handler runs, no request of the connection it was called for is left. A
`Link` tells what has become of that connection. -/

inductive Link
  | unread
  | closed
  | renewed
deriving DecidableEq, Repr

/-- An open connection refuses to connect. -/
def Link.call : Link → Call → Link
  | .closed, .connect _ _ _ true => .renewed
  | _, .disconnect => .closed
  | l, _ => l

def Link.callAll (calls : List Call) (l : Link) : Link :=
  calls.foldl Link.call l

/-- A callback, and the calls and the exception of those after it: they are not
called if it throws. -/
def Script.before (s : Script) (later : List Call × Option Fault) : List Call × Option Fault :=
  match s.thrown with
  | some e => (s.calls, some e)
  | none => (s.calls ++ later.1, later.2)

/-- The calls of the reply callbacks for `n` replies, up to the first one that
throws, and what it throws. -/
def turns : Nat → List Script → List Call × Option Fault
  | 0, _ => ([], none)
  | n + 1, scripts => (scripts.head?.getD {}).before (turns n scripts.tail)

/-- The event leaves a connection that is open with one outstanding request. -/
def Resumes (c : RedisConnection) : Event → Prop
  | .call _ => True
  | .drop _ _ => True
  | .failedRead => False
  | .read data replies handler =>
    match c.builder.feed data with
    | (_, .error (.redisError _)) => Link.unread.callAll handler.calls ≠ .unread
    | (_, .error _) => False
    | (builder, .ok ()) =>
      let (calls, thrown) := turns builder.availableReplies.length replies
      if thrown.isNone then Link.unread.callAll calls ≠ .renewed
      else Link.unread.callAll calls ≠ .unread

/-- What the link says of the tcp client. -/
def Linked (c : RedisConnection) : Link → Prop
  | .unread => c.client.connected = true ∧ c.client.reads = 0
  | .closed => c.client.connected = false ∧ c.client.reads = 0
  | .renewed => c.client.connected = true ∧ c.client.reads = 1

/-- Both callbacks are set. -/
def CallbacksSet (c : RedisConnection) : Prop :=
  c.replyCallback = true ∧ c.disconnectionHandler = true

/-- What a call does: `connect` on an open connection is refused, and `commit`
leaves the requests alone. -/
theorem Call.apply_connect_accepted {c : RedisConnection} (host : Bytes) (port timeoutMsecs : Nat)
    (h : c.client.connected = false) :
    Call.apply c (.connect host port timeoutMsecs true) =
      c.accept ⟨host, port % 2 ^ 32, timeoutMsecs⟩ true true :=
  after_ok (connect_accepted host port true true timeoutMsecs h)

theorem Call.apply_connect_refused {c : RedisConnection} (host : Bytes) (port timeoutMsecs : Nat)
    {accepted : Bool} (h : c.client.connected = true ∨ accepted = false) :
    Call.apply c (.connect host port timeoutMsecs accepted) =
      c.refuse ⟨host, port % 2 ^ 32, timeoutMsecs⟩ :=
  after_error (connect_refused host port true true timeoutMsecs h)

theorem Call.apply_commit (c : RedisConnection) :
    Call.apply c .commit = c.flush ∨ Call.apply c .commit = c.discard := by
  cases hc : c.client.connected with
  | true => exact .inl (after_ok (commit_connected hc))
  | false => exact .inr (after_error (commit_disconnected hc))

theorem Linked.call {c : RedisConnection} {l : Link} (h : Linked c l) (call : Call) :
    Linked (call.apply c) (l.call call) := by
  cases call with
  | connect host port timeoutMsecs accepted =>
    cases l with
    | closed =>
      cases accepted with
      | true =>
        rw [Call.apply_connect_accepted _ _ _ h.1]
        exact ⟨rfl, rfl⟩
      | false =>
        rw [Call.apply_connect_refused _ _ _ (.inr rfl)]
        exact h
    | unread =>
      rw [Call.apply_connect_refused _ _ _ (.inl h.1)]
      exact h
    | renewed =>
      rw [Call.apply_connect_refused _ _ _ (.inl h.1)]
      exact h
  | disconnect => cases l <;> exact ⟨rfl, rfl⟩
  | send redisCmd => cases l <;> exact h
  | commit =>
    rcases Call.apply_commit c with hcommit | hcommit <;> rw [hcommit] <;> cases l <;> exact h

theorem Linked.callAll {c : RedisConnection} {l : Link} (h : Linked c l) (calls : List Call) :
    Linked (c.callAll calls) (l.callAll calls) := by
  induction calls generalizing c l with
  | nil => exact h
  | cons call calls ih => exact ih (h.call call)

/-- A call makes no reply available and takes none away, and leaves the callbacks set. -/
theorem Call.apply_kept (c : RedisConnection) (call : Call) :
    (call.apply c).builder.availableReplies = c.builder.availableReplies ∧
      (CallbacksSet c → CallbacksSet (call.apply c)) := by
  cases call with
  | connect host port timeoutMsecs accepted =>
    cases hc : c.client.connected with
    | true =>
      rw [Call.apply_connect_refused _ _ _ (.inl hc)]
      exact ⟨rfl, fun h => h⟩
    | false =>
      cases accepted with
      | true =>
        rw [Call.apply_connect_accepted _ _ _ hc]
        exact ⟨rfl, fun _ => ⟨rfl, rfl⟩⟩
      | false =>
        rw [Call.apply_connect_refused _ _ _ (.inr rfl)]
        exact ⟨rfl, fun h => h⟩
  | commit =>
    rcases Call.apply_commit c with hcommit | hcommit <;> rw [hcommit] <;>
      exact ⟨rfl, fun h => h⟩
  | _ => exact ⟨rfl, fun h => h⟩

theorem callAll_kept (calls : List Call) (c : RedisConnection) :
    (c.callAll calls).builder.availableReplies = c.builder.availableReplies ∧
      (CallbacksSet c → CallbacksSet (c.callAll calls)) := by
  induction calls generalizing c with
  | nil => exact ⟨rfl, fun h => h⟩
  | cons call calls ih =>
    have hcall := call.apply_kept c
    have hrest := ih (call.apply c)
    exact ⟨hrest.1.trans hcall.1, fun h => hrest.2 (hcall.2 h)⟩

/-! ## The handlers -/

/-- How a call of a callback ends. -/
def ended {σ : Type} (thrown : Option Fault) (c : σ) : EStateM.Result Fault σ Unit :=
  match thrown with
  | none => .ok () c
  | some e => .error e c

theorem Script.run_eq (s : Script) (c : RedisConnection) :
    s.run c = ended s.thrown (c.callAll s.calls) := by
  unfold Script.run ended
  rw [modify_bind]
  cases s.thrown <;> rfl

/-- A turn of the loop over the replies: the first one is popped before its
callback is called. -/
theorem deliver_succ {σ ι : Type} (connection : Lens σ RedisConnection)
    (receive : Option ι → Reply → EStateM Fault σ Unit) (n : Nat) (inputs : List ι) {s : σ}
    {reply : Reply} {rest : List Reply}
    (h : (connection.get s).builder.availableReplies = reply :: rest)
    (hset : (connection.get s).replyCallback = true) :
    deliver connection receive (n + 1) inputs s =
      (receive inputs.head? reply >>= fun _ => deliver connection receive n inputs.tail)
        (connection.update (popReply rest) s) := by
  rw [deliver, get_bind]
  dsimp only
  rw [h]
  dsimp only
  rw [modify_bind, if_pos hset]
  rfl

/-- The rule for the loop over the replies, whose callbacks are programs `f x`: what holds
with some replies available, and with one less after each turn, holds with none at its end.
By induction on the replies. -/
theorem deliver_ok {σ ι τ : Type} {connection : Lens σ RedisConnection}
    {receive : Option ι → Reply → EStateM Fault σ Unit} {f : τ → ι} {P : List Reply → σ → Prop}
    (havailable : ∀ {replies s}, P replies s →
      (connection.get s).builder.availableReplies = replies ∧ (connection.get s).replyCallback = true)
    (hturn : ∀ {reply rest s} (x : Option τ), P (reply :: rest) s →
      ∃ s', receive (x.map f) reply (connection.update (popReply rest) s) = .ok () s' ∧ P rest s')
    (xs : List τ) {replies : List Reply} {s : σ} (h : P replies s) :
    ∃ s', deliver connection receive replies.length (xs.map f) s = .ok () s' ∧ P [] s' := by
  induction replies generalizing s xs with
  | nil => exact ⟨s, rfl, h⟩
  | cons reply rest ih =>
    obtain ⟨hfirst, hset⟩ := havailable h
    obtain ⟨s₁, hreceive, h₁⟩ := hturn xs.head? h
    obtain ⟨s', hdeliver, h'⟩ := ih xs.tail h₁
    refine ⟨s', ?_, h'⟩
    rw [List.length_cons, deliver_succ connection receive rest.length _ hfirst hset, List.head?_map,
      ← List.map_tail, bind_ok hreceive]
    exact hdeliver

/-- The loop over the replies makes the calls of `turns`. By induction on the
number of replies that are available. -/
theorem deliver_linked {n : Nat} (replies : List Script) {c : RedisConnection} {l : Link}
    (hn : c.builder.availableReplies.length = n) (hset : CallbacksSet c) (hl : Linked c l) :
    ∃ c', deliver Lens.id runReplyCallback n replies c =
        ended (turns n replies).2 c' ∧ Linked c' (l.callAll (turns n replies).1) := by
  induction n generalizing replies c l with
  | zero => exact ⟨c, rfl, hl⟩
  | succ n ih =>
    obtain ⟨reply, rest, havailable⟩ : ∃ reply rest, c.builder.availableReplies = reply :: rest :=
      List.exists_cons_of_length_eq_add_one hn
    rw [havailable] at hn
    unfold turns
    rw [deliver_succ Lens.id _ n replies havailable hset.1]
    have hl₁ : Linked (popReply rest c) l := hl
    have hset₁ : CallbacksSet (popReply rest c) := hset
    have hpopped : (popReply rest c).builder.availableReplies.length = n := Nat.succ.inj hn
    have hover : Lens.id.update (popReply rest) c = popReply rest c := rfl
    rw [hover]
    generalize popReply rest c = c₁ at hl₁ hset₁ hpopped ⊢
    unfold runReplyCallback
    generalize replies.head?.getD {} = script
    have hrun := script.run_eq c₁
    have hl₂ := hl₁.callAll script.calls
    have hkept := callAll_kept script.calls c₁
    cases hthrown : script.thrown with
    | some e =>
      have hbefore : script.before (turns n replies.tail) = (script.calls, some e) := by
        unfold Script.before
        rw [hthrown]
      rw [hthrown] at hrun
      rw [hbefore]
      exact ⟨_, bind_error hrun _, hl₂⟩
    | none =>
      have hbefore : script.before (turns n replies.tail) =
          (script.calls ++ (turns n replies.tail).1, (turns n replies.tail).2) := by
        unfold Script.before
        rw [hthrown]
      rw [hthrown] at hrun
      have hn₂ : (c₁.callAll script.calls).builder.availableReplies.length = n := by
        rw [hkept.1]
        exact hpopped
      obtain ⟨c', hrest, hl'⟩ := ih replies.tail hn₂ (hkept.2 hset₁) hl₂
      rw [hbefore]
      refine ⟨c', (bind_ok hrun _).trans hrest, ?_⟩
      unfold Link.callAll at hl' ⊢
      rw [List.foldl_append]
      exact hl'

theorem Linked.reading_iff {c : RedisConnection} {l : Link} (h : Linked c l) :
    Reading c ↔ l ≠ .unread := by
  unfold Reading
  cases l with
  | unread =>
    refine ⟨fun hr => ?_, fun hl => absurd rfl hl⟩
    have := h.2.symm.trans (hr h.1)
    exact absurd this Nat.zero_ne_one
  | closed => exact ⟨fun _ => Link.noConfusion, fun _ hc => absurd (h.1.symm.trans hc) Bool.false_ne_true⟩
  | renewed => exact ⟨fun _ => Link.noConfusion, fun _ _ => h.2⟩

theorem asyncRead_open {c : RedisConnection} (h : c.client.connected = true) :
    tcp.zoom TcpClient.asyncRead c =
      .ok () { c with client := { c.client with reads := c.client.reads + 1 } } := by
  obtain ⟨⟨connected, reads, written, dialled, what⟩, _, _, _, _⟩ := c
  cases h
  rfl

/-- The same rule for a chunk that is parsed without a fault, where the connection is open
at the end: then it is read again. -/
theorem receive_ok {σ ι τ : Type} {connection : Lens σ RedisConnection}
    {receive : Option ι → Reply → EStateM Fault σ Unit} {f : τ → ι} {P : List Reply → σ → Prop}
    (havailable : ∀ {replies s}, P replies s →
      (connection.get s).builder.availableReplies = replies ∧ (connection.get s).replyCallback = true)
    (hturn : ∀ {reply rest s} (x : Option τ), P (reply :: rest) s →
      ∃ s', receive (x.map f) reply (connection.update (popReply rest) s) = .ok () s' ∧ P rest s')
    (hopen : ∀ {s}, P [] s → (connection.get s).client.connected = true)
    (disconnected : EStateM Fault σ Bool) (xs : List τ) {data : Bytes} {builder : ReplyBuilder} {s : σ}
    (hfeed : (connection.get s).builder.feed data = (builder, .ok ()))
    (h : P builder.availableReplies (connection.set { connection.get s with builder := builder } s)) :
    ∃ t, P [] t ∧
      after (tcpClientReceiveHandler connection receive disconnected (some data) (xs.map f)) s =
        connection.update (fun c => { c with client := { c.client with reads := c.client.reads + 1 } })
          t := by
  obtain ⟨t, hdeliver, hend⟩ := deliver_ok havailable hturn xs h
  have hread := connection.zoom_ok (s := t) (asyncRead_open (hopen hend))
  refine ⟨t, hend, ?_⟩
  unfold tcpClientReceiveHandler
  dsimp only
  rw [after_get_bind, hfeed]
  dsimp only
  rw [after_modify_bind]
  exact (after_bind_ok hdeliver _).trans (after_ok ((bind_ok (catch_ok hread _) _).trans rfl))

theorem asyncRead_closed {c : RedisConnection} (h : c.client.connected = false) :
    tcp.zoom TcpClient.asyncRead c = .error (.stdException c.client.what) c := by
  obtain ⟨⟨connected, reads, written, dialled, what⟩, _, _, _, _⟩ := c
  cases h
  rfl

/-- The last lines of `tcp_client_receive_handler`. -/
def readAgain {σ : Type} (connection : Lens σ RedisConnection) : EStateM Fault σ Bool := do
  try connection.zoom (tcp.zoom TcpClient.asyncRead)
  catch e => if e.isException then pure () else throw e
  pure true

/-- A request is made on a connection that is open, also on one that has one
already; a closed connection stays as it is. -/
theorem get_readAgain {σ : Type} (connection : Lens σ RedisConnection) (s : σ) :
    connection.get (after (readAgain connection) s) =
      if (connection.get s).client.connected then
        { connection.get s with
          client := { (connection.get s).client with reads := (connection.get s).client.reads + 1 } }
      else connection.get s := by
  unfold readAgain
  rw [after_bind_pure]
  cases hc : (connection.get s).client.connected with
  | true =>
    rw [after_ok (catch_ok (connection.zoom_ok (asyncRead_open hc)) _), connection.get_set]
    rfl
  | false =>
    have hcaught := catch_error (connection.zoom_error (asyncRead_closed hc))
      fun e => if e.isException then pure () else throw e
    have hafter : after (tryCatch (connection.zoom (tcp.zoom TcpClient.asyncRead))
        fun e => if e.isException then pure () else throw e) s =
          connection.set (connection.get s) s := after_ok hcaught
    rw [hafter, connection.get_set]
    rfl

theorem Linked.readAgain_iff {c : RedisConnection} {l : Link} (h : Linked c l) :
    Reading (after (readAgain Lens.id) c) ↔ l ≠ .renewed := by
  have hafter := get_readAgain Lens.id c
  have hid : ∀ c : RedisConnection, Lens.id.get c = c := fun _ => rfl
  rw [hid, hid] at hafter
  rw [hafter]
  unfold Reading
  cases l with
  | unread =>
    rw [h.1, if_pos rfl, h.2]
    exact ⟨fun _ => Link.noConfusion, fun _ _ => rfl⟩
  | closed =>
    rw [h.1, if_neg Bool.false_ne_true, h.1]
    exact ⟨fun _ => Link.noConfusion, fun _ hc => absurd hc Bool.false_ne_true⟩
  | renewed =>
    rw [h.1, if_pos rfl, h.2]
    refine ⟨fun hr => ?_, fun hl => absurd rfl hl⟩
    exact absurd (hr h.1) (show 1 + 1 ≠ 1 by decide)

/-- The disconnection handler that is set makes its calls, and may throw. -/
theorem after_callDisconnectionHandler (handler : Script) {c : RedisConnection}
    (hset : CallbacksSet c) :
    after (callDisconnectionHandler Lens.id (handler.run >>= fun _ => pure true)) c =
      c.callAll handler.calls := by
  unfold callDisconnectionHandler
  have hset' : (Lens.id.get c).disconnectionHandler = true := hset.2
  rw [after_get_bind, if_pos hset', after_bind_pure]
  unfold after
  rw [handler.run_eq]
  cases handler.thrown <;> rfl

/-- A read of an open connection without a request, by the outcome of the parser. -/
theorem received_reading_iff {c : RedisConnection} (hset : CallbacksSet c) (hl : Linked c .unread)
    (data : Bytes) (replies : List Script) (handler : Script) :
    Reading (after (received (some data) replies handler) c) ↔
      Resumes c (.read data replies handler) := by
  unfold received tcpClientReceiveHandler Resumes
  rw [after_get_bind]
  dsimp only [Lens.id]
  rcases hfeed : c.builder.feed data with ⟨builder, outcome⟩
  dsimp only
  rw [after_modify_bind]
  have hl₁ : Linked { c with builder := builder } .unread := hl
  have hset₁ : CallbacksSet { c with builder := builder } := hset
  have hbuilder : { c with builder := builder }.builder = builder := rfl
  generalize { c with builder := builder } = c₁ at hl₁ hset₁ hbuilder ⊢
  cases outcome with
  | error e =>
    cases e with
    | redisError what =>
      have hcalled := after_callDisconnectionHandler handler hset₁
      have hlinked := hl₁.callAll handler.calls
      rw [← hcalled] at hlinked
      exact hlinked.reading_iff
    | _ => exact ⟨fun hr => absurd rfl (hl₁.reading_iff.mp hr), fun h => h.elim⟩
  | ok u =>
    obtain ⟨c₂, hdeliver, hl₂⟩ := deliver_linked replies rfl hset₁ hl₁
    rw [hbuilder] at hdeliver hl₂
    dsimp only
    rcases hturns : turns builder.availableReplies.length replies with ⟨calls, thrown⟩
    rw [hturns] at hdeliver hl₂
    dsimp only at hdeliver hl₂ ⊢
    cases thrown with
    | none =>
      have hafter := after_bind_ok hdeliver fun _ => readAgain Lens.id
      exact (iff_of_eq (congrArg Reading hafter)).trans hl₂.readAgain_iff
    | some e =>
      have hafter := after_bind_error hdeliver fun _ => readAgain Lens.id
      exact (iff_of_eq (congrArg Reading hafter)).trans hl₂.reading_iff

/-! ## Runs -/

/-- A request is outstanding on an open connection only, and an open connection
has both callbacks set. -/
structure Wired (c : RedisConnection) : Prop where
  closed : c.client.connected = false → c.client.reads = 0
  callbacksSet : c.client.connected = true → CallbacksSet c

theorem Wired.call {c : RedisConnection} (h : Wired c) (call : Call) : Wired (call.apply c) := by
  cases call with
  | connect host port timeoutMsecs accepted =>
    cases hc : c.client.connected with
    | true =>
      rw [Call.apply_connect_refused _ _ _ (.inl hc)]
      exact ⟨h.closed, h.callbacksSet⟩
    | false =>
      cases accepted with
      | true =>
        rw [Call.apply_connect_accepted _ _ _ hc]
        exact ⟨fun hc => absurd hc.symm Bool.false_ne_true, fun _ => ⟨rfl, rfl⟩⟩
      | false =>
        rw [Call.apply_connect_refused _ _ _ (.inr rfl)]
        exact ⟨h.closed, h.callbacksSet⟩
  | disconnect => exact ⟨fun _ => rfl, fun hc => absurd hc Bool.false_ne_true⟩
  | send redisCmd => exact ⟨h.closed, h.callbacksSet⟩
  | commit =>
    rcases Call.apply_commit c with hcommit | hcommit <;> rw [hcommit] <;>
      exact ⟨h.closed, h.callbacksSet⟩

theorem Wired.callAll {c : RedisConnection} (h : Wired c) (calls : List Call) :
    Wired (c.callAll calls) := by
  induction calls generalizing c with
  | nil => exact h
  | cons call calls ih => exact ih (h.call call)

/-- The second state is wired if the first one is. -/
def KeepsWired (c c' : RedisConnection) : Prop :=
  Wired c → Wired c'

theorem handlersWithin_wired : HandlersWithin Lens.id KeepsWired where
  parse _ _ h := ⟨h.closed, h.callbacksSet⟩
  asyncRead := by
    refine .zoom fun c h => ?_
    obtain ⟨⟨connected, reads, written, dialled, what⟩, _, _, _, _⟩ := c
    cases connected with
    | true => exact ⟨fun hc => absurd hc.symm Bool.false_ne_true, fun _ => h.callbacksSet rfl⟩
    | false => exact ⟨h.closed, h.callbacksSet⟩
  clear _ h := ⟨h.closed, h.callbacksSet⟩

theorem Script.run_wired (s : Script) : Follows KeepsWired s.run := by
  unfold Script.run
  refine .bind (.modify fun c h => h.callAll s.calls) fun _ => ?_
  cases s.thrown with
  | none => exact .pure _
  | some e => exact .throw _

theorem Wired.after {c : RedisConnection} (h : Wired c) {α : Type}
    {p : EStateM Fault RedisConnection α} (hp : Follows KeepsWired p) : Wired (after p c) :=
  hp.keeps (fun _ _ hstep hc => hstep hc) h

theorem Wired.step {c : RedisConnection} (h : Wired c) (e : Event) : Wired (step c e) := by
  have hhandler := fun s : Script => Follows.bind s.run_wired fun _ => Follows.pure true
  have hread : Wired c.completeRead :=
    ⟨fun hc => congrArg (· - 1) (h.closed hc), h.callbacksSet⟩
  cases e with
  | call call => exact h.call call
  | drop before handler =>
    have hlose : Wired c.lose := ⟨fun _ => rfl, fun hc => absurd hc Bool.false_ne_true⟩
    exact (hlose.callAll before).after (handlersWithin_wired.tcpClientDisconnectionHandler_follows (hhandler handler))
  | failedRead => exact hread
  | read data replies handler =>
    exact hread.after (handlersWithin_wired.tcpClientReceiveHandler_follows
      (fun script _ _ => (script.getD {}).run_wired) (hhandler handler) (some data))

theorem Link.callAll_ne_unread {l : Link} (h : l ≠ .unread) (calls : List Call) :
    l.callAll calls ≠ .unread := by
  induction calls generalizing l with
  | nil => exact h
  | cons call calls ih =>
    refine ih ?_
    cases l with
    | unread => exact absurd rfl h
    | closed =>
      cases call with
      | connect host port timeoutMsecs accepted =>
        cases accepted <;> exact Link.noConfusion
      | _ => exact Link.noConfusion
    | renewed => cases call <;> exact Link.noConfusion

/-- A connection that is closed, or read by one request. -/
theorem Wired.linked {c : RedisConnection} (h : Wired c) (hr : Reading c) :
    ∃ l, l ≠ Link.unread ∧ Linked c l := by
  cases hc : c.client.connected with
  | true => exact ⟨.renewed, Link.noConfusion, hc, hr hc⟩
  | false => exact ⟨.closed, Link.noConfusion, hc, h.closed hc⟩

/-- A request is outstanding on an open connection only. -/
theorem Wired.connected {c : RedisConnection} (h : Wired c) (he : 0 < c.client.reads) :
    c.client.connected = true := by
  cases hc : c.client.connected with
  | true => rfl
  | false => exact absurd (h.closed hc) he.ne'

/-- The request that completes was the only one of an open connection. -/
theorem Wired.completeRead_linked {c : RedisConnection} (hw : Wired c) (hr : Reading c)
    (he : 0 < c.client.reads) : CallbacksSet c.completeRead ∧ Linked c.completeRead .unread := by
  have hc := hw.connected he
  exact ⟨hw.callbacksSet hc, hc, congrArg (· - 1) (hr hc)⟩

/-- A step from a state that is as it should be. -/
theorem step_reading_iff {c : RedisConnection} {e : Event} (hw : Wired c) (hr : Reading c)
    (he : Enabled c e) : Reading (step c e) ↔ Resumes c e := by
  cases e with
  | call call =>
    obtain ⟨l, hne, hl⟩ := hw.linked hr
    refine ⟨fun _ => trivial, fun _ => ?_⟩
    exact (hl.call call).reading_iff.mpr (Link.callAll_ne_unread hne [call])
  | drop before handler =>
    refine ⟨fun _ => trivial, fun _ => ?_⟩
    have hlost : Linked c.lose .closed := ⟨rfl, rfl⟩
    have hl : Linked (c.lose.callAll before).clear (Link.closed.callAll before) := by
      have hbefore := hlost.callAll before
      generalize Link.closed.callAll before = l at hbefore ⊢
      cases l <;> exact hbefore
    have hset : CallbacksSet (c.lose.callAll before).clear :=
      (callAll_kept before c.lose).2 (hw.callbacksSet he)
    have hcalled := after_callDisconnectionHandler handler hset
    have hlinked := hl.callAll handler.calls
    rw [← hcalled] at hlinked
    have hne := Link.callAll_ne_unread (l := .closed) Link.noConfusion before
    exact hlinked.reading_iff.mpr (Link.callAll_ne_unread hne handler.calls)
  | failedRead =>
    have hl := (hw.completeRead_linked hr he).2
    exact ⟨fun h => absurd rfl (hl.reading_iff.mp h), fun h => h.elim⟩
  | read data replies handler =>
    obtain ⟨hset, hl⟩ := hw.completeRead_linked hr he
    exact received_reading_iff hset hl data replies handler

/-- The same of a run, from any state that is as it should be. -/
theorem Wired.reading_iff_along {c : RedisConnection} {events : List Event} (hw : Wired c)
    (hr : Reading c) (h : machine.Possible c events) :
    machine.Always Reading c events ↔ machine.Along Resumes c events :=
  Machine.always_iff_along (K := Wired) (fun _ e hw _ => hw.step e)
    (fun _ _ hw hr he => step_reading_iff hw hr he) h hw hr

/-- A new connection. -/
theorem Wired.new (what : String) : Wired { client := { what := what } } :=
  ⟨fun _ => rfl, fun hc => absurd hc Bool.false_ne_true⟩

theorem Reading.new (what : String) : Reading { client := { what := what } } :=
  fun hc => absurd hc Bool.false_ne_true

/-- In a run of a new connection, exactly one request is outstanding on it whenever
it is open if and only if each step resumes reading. -/
theorem always_reading_iff {events : List Event} (h : machine.Possible {} events) :
    machine.Always Reading {} events ↔ machine.Along Resumes {} events :=
  (Wired.new _).reading_iff_along (.new _) h

/-- A connection is opened, read, lost and opened again. -/
def reopened : List Event :=
  [.call (.connect (ascii "localhost") 6379 0 true),
    .read (ascii "+OK\r\n") [{ calls := [.commit] }] {},
    .drop [.send [ascii "PING"]] { calls := [.connect (ascii "localhost") 6379 0 true] }]

theorem always_reading_iff_reopened :
    machine.Always Reading {} reopened ↔ machine.Along Resumes {} reopened :=
  always_reading_iff (by decide +kernel)

/-- A connection is opened, and a malformed reply is read from it. -/
def malformed : List Event :=
  [.call (.connect (ascii "localhost") 6379 0 true), .read (ascii "!") [] {}]

end RedisConnection

/-- A connection that was sent a malformed reply stays open and is not read any
more. The command that a client was waiting for stays in its queue. -/
theorem not_always_reading :
    (¬ ∀ events, RedisConnection.machine.Possible {} events →
      RedisConnection.machine.Always RedisConnection.Reading {} events) ∧
    let c := after (Client.receive Client.silent (some (ascii "!")) [] id [])
      (Client.connection.update RedisConnection.completeRead Client.connectedGet)
    c.client.client.connected = true ∧ c.client.client.reads = 0 ∧
      c.commands = Client.connectedGet.commands := by
  refine ⟨fun h => ?_, ?_⟩
  · exact absurd (h RedisConnection.malformed (by decide +kernel)) (by decide +kernel)
  · decide +kernel

end CppRedis
