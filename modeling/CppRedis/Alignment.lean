import CppRedis.Reading
import CppRedis.RoundTrip
import CppRedis.Reset
import CppRedis.Lib.Backlog

/-!
# The queue and the connection

Without automatic reconnection, `m_commands` is at all times the list of commands
that are still to be answered: those written to the current connection whose
replies were not read yet, and then those in the send buffer. This module runs a
client against a server that answers each command once and in order, over a
connection that cuts its bytes anywhere.

* `Pending`: what the bytes in flight will make of the parser.
* `Queued`, `Waiting`: the buffer and the queue on an open and on a closed connection.
  `receive_chunk` is a chunk, with callbacks that call the client.
* `connect_dialled`, `drop_reticent`: what connecting and losing a connection do to both.
* `inStep_run`: in every state of every run the client is in step with the
  connection, and every reply that was read was given to the callback of the command
  it answers.
-/

namespace CppRedis

open Text Procedure

/-! ## The parser -/

namespace ReplyBuilder

/-- The bytes in flight complete the replies of `values` and nothing else. No reply
is available yet. -/
structure Pending (b : ReplyBuilder) (inFlight : Bytes) (values : List Value) : Prop where
  none_available : b.availableReplies = []
  feed : b.feed inFlight =
    ({ builder := none, availableReplies := values.map Value.toReply, buffer := [] }, .ok ())

theorem Pending.new : Pending {} [] [] :=
  ⟨rfl, settled_new⟩

/-- The server answers once more. -/
theorem Pending.answer {b : ReplyBuilder} {inFlight : Bytes} {values : List Value}
    (h : Pending b inFlight values) {v : Value} (hv : v.WellFormed) :
    Pending b (inFlight ++ v.encode) (values ++ [v]) where
  none_available := h.none_available
  feed := by
    have hidle : Idle { builder := none, availableReplies := values.map Value.toReply, buffer := [] } :=
      ⟨rfl, rfl⟩
    have hone : ∀ r ∈ [v], r.WellFormed := fun r hr => List.mem_singleton.mp hr ▸ hv
    have hnext := feed_encodeAll hidle hone
    rw [Value.encodeAll, Value.encodeAll, List.append_nil] at hnext
    rw [feed_append_ok h.feed, hnext, List.map_append]

/-- Some of the bytes arrive, cut anywhere: they are parsed without a fault into
the replies of the first values, and the rest stays pending. -/
theorem Pending.chunk {b : ReplyBuilder} {data later : Bytes} {values : List Value}
    (h : Pending b (data ++ later) values) :
    ∃ b' n, b.feed data = (b'.prepend ((values.take n).map Value.toReply), .ok ()) ∧
      n ≤ values.length ∧ Pending b' later (values.drop n) := by
  rcases hdata : b.feed data with ⟨s, e | ⟨⟩⟩
  · -- a fault in the chunk would be one in the whole
    have := (feed_append_error hdata later).symm.trans h.feed
    exact absurd (Prod.ext_iff.mp this).2 (by simp)
  · have hlater := (feed_append_ok hdata later).symm.trans h.feed
    let b' : ReplyBuilder := { s with availableReplies := [] }
    have hs : b'.prepend s.availableReplies = s := by
      show { s with availableReplies := s.availableReplies ++ [] } = s
      rw [List.append_nil]
    rw [← hs, feed_prepend] at hlater
    obtain ⟨hstate, hok⟩ := Prod.ext_iff.mp hlater
    have hvalues : s.availableReplies ++ (b'.feed later).1.availableReplies =
        values.map Value.toReply := congrArg (·.availableReplies) hstate
    have hn : s.availableReplies.length ≤ values.length := by
      have := congrArg List.length hvalues
      rw [List.length_append, List.length_map] at this
      omega
    have hfront : s.availableReplies = (values.take s.availableReplies.length).map Value.toReply := by
      rw [List.map_take, ← hvalues, List.take_left]
    have hrest : (b'.feed later).1.availableReplies =
        (values.drop s.availableReplies.length).map Value.toReply := by
      rw [List.map_drop, ← hvalues, List.drop_left]
    refine ⟨b', s.availableReplies.length, ?_, hn, rfl, ?_⟩
    · rw [← hfront, hs]
    · refine Prod.ext ?_ hok
      have hbuilder : (b'.feed later).1.builder = none := congrArg (·.builder) hstate
      have hbuffer : (b'.feed later).1.buffer = [] := congrArg (·.buffer) hstate
      rw [← hrest, ← hbuilder, ← hbuffer]

/-- The same where `exchanged` of the answers of the server have been delivered: the chunk
completes the next ones. -/
theorem Pending.read {b : ReplyBuilder} {inFlight : Bytes} {answers : List Value} {exchanged : Nat}
    (h : Pending b inFlight (answers.drop exchanged)) (hexchanged : exchanged ≤ answers.length)
    (size : Nat) :
    ∃ b' replies, b.feed (inFlight.take size) = (b'.prepend replies, .ok ()) ∧
      exchanged + replies.length ≤ answers.length ∧
      replies = ((answers.drop exchanged).take replies.length).map Value.toReply ∧
      Pending b' (inFlight.drop size) (answers.drop (exchanged + replies.length)) := by
  rw [← List.take_append_drop size inFlight] at h
  obtain ⟨b', n, hfeed, hn, hlater⟩ := h.chunk
  have hlength : (((answers.drop exchanged).take n).map Value.toReply).length = n := by
    rw [List.length_map, List.length_take, Nat.min_eq_left hn]
  rw [List.length_drop] at hn
  refine ⟨b', _, hfeed, ?_, ?_, ?_⟩
  · rw [hlength]
    omega
  · rw [hlength]
  · rw [hlength, ← List.drop_drop]
    exact hlater

/-- The parser has made all that it can of the bytes that it was given. -/
theorem settled_of_prepend {b b' : ReplyBuilder} {data : Bytes} {replies : List Reply}
    (h : b.feed data = (b'.prepend replies, .ok ())) : b'.Settled := by
  have hfed := settled_feed h
  unfold Settled at hfed ⊢
  rw [feed_prepend] at hfed
  obtain ⟨hstate, hok⟩ := Prod.ext_iff.mp hfed
  refine Prod.ext ?_ hok
  have hreplies : (b'.feed []).1.availableReplies = b'.availableReplies :=
    List.append_cancel_left (congrArg (·.availableReplies) hstate)
  have hbuilder : (b'.feed []).1.builder = b'.builder := congrArg (·.builder) hstate
  have hbuffer : (b'.feed []).1.buffer = b'.buffer := congrArg (·.buffer) hstate
  show ReplyBuilder.mk ⟨(b'.feed []).1.builder, (b'.feed []).1.availableReplies⟩
    (b'.feed []).1.buffer = b'
  rw [hbuilder, hreplies, hbuffer]

/-- Nothing is left to be parsed where nothing is on its way. -/
theorem Pending.none_left {b : ReplyBuilder} {values : List Value} (h : Pending b [] values)
    (hsettled : b.Settled) : values = [] := by
  have hfeed := h.feed.symm.trans hsettled
  have havailable := congrArg (fun r => r.1.availableReplies) hfeed
  exact List.map_eq_nil_iff.mp (havailable.trans h.none_available)

end ReplyBuilder

/-- One more of the replies of a chunk is taken out of the builder. -/
theorem RedisConnection.popReply_builder {c : RedisConnection} {b : ReplyBuilder} {replies rest : List Reply}
    (hnone : b.availableReplies = []) (hc : c.builder = b.prepend replies) :
    (popReply rest c).builder = b.prepend rest := by
  show { c.builder with availableReplies := rest } = _
  rw [hc]
  show _ = { b with availableReplies := rest ++ b.availableReplies }
  rw [hnone, List.append_nil]
  rfl

namespace Client

variable {κ : Type}

/-! ## Calls -/

/-- A call that adds to the pipeline or commits it. -/
inductive PipelineCall (κ : Type)
  | send (redisCmd : Command) (callback : Option κ)
  | auth (password : Bytes) (callback : Option κ)
  | select (index : Int) (callback : Option κ)
  | commit

def PipelineCall.run (c : Client κ) : PipelineCall κ → Client κ
  | .send redisCmd callback => c.send redisCmd callback
  | .auth password callback => c.auth password callback
  | .select index callback => c.select index callback
  | .commit => after Client.commit c

def runCalls (calls : List (PipelineCall κ)) (c : Client κ) : Client κ :=
  calls.foldl PipelineCall.run c

/-- A callback that makes some calls. -/
def calling (calls : List (PipelineCall κ)) : EStateM Fault (Client κ) Unit :=
  modify (runCalls calls)

/-- What a call of the pipeline leaves alone. -/
structure Calm (c c' : Client κ) : Prop where
  reconnecting : c'.reconnecting = c.reconnecting
  connected : c'.client.client.connected = c.client.client.connected
  builder : c'.client.builder = c.client.builder
  replyCallback : c'.client.replyCallback = c.client.replyCallback
  disconnectionHandler : c'.client.disconnectionHandler = c.client.disconnectionHandler

theorem Calm.refl (c : Client κ) : Calm c c :=
  ⟨rfl, rfl, rfl, rfl, rfl⟩

theorem Calm.trans {c₁ c₂ c₃ : Client κ} (h : Calm c₁ c₂) (h' : Calm c₂ c₃) : Calm c₁ c₃ :=
  ⟨h'.reconnecting.trans h.reconnecting, h'.connected.trans h.connected,
    h'.builder.trans h.builder, h'.replyCallback.trans h.replyCallback,
    h'.disconnectionHandler.trans h.disconnectionHandler⟩

/-- The buffer is moved out and not written. -/
def discarded (c : Client κ) : Client κ :=
  { c with client := c.client.discard }

/-- A commit on an open and on a closed connection. -/
theorem commit_open {c : Client κ} (hr : c.reconnecting = false)
    (hc : c.client.client.connected = true) :
    after commit c = connection.update RedisConnection.flush c := by
  rw [after_ok ((commit_eq_tryCommit hr).trans (tryCommit_connected hc))]

theorem commit_closed {c : Client κ} (hr : c.reconnecting = false)
    (hc : c.client.client.connected = false) : after commit c = c.discarded.clearCallbacks := by
  rw [after_error ((commit_eq_tryCommit hr).trans (tryCommit_disconnected hc))]
  rfl

theorem clearCallbacks_calm (c : Client κ) :
    Calm c c.clearCallbacks ∧ c.clearCallbacks.commands = [] ∧
      c.clearCallbacks.handled = c.handled ∧ c.clearCallbacks.invoked = c.invoked := by
  unfold clearCallbacks
  split
  · next h => exact ⟨.refl c, List.isEmpty_iff.mp h, rfl, rfl⟩
  · exact ⟨⟨rfl, rfl, rfl, rfl, rfl⟩, rfl, rfl, rfl⟩

theorem PipelineCall.calm {c : Client κ} (hr : c.reconnecting = false) (call : PipelineCall κ) :
    Calm c (call.run c) ∧ (call.run c).handled = c.handled ∧ (call.run c).invoked = c.invoked := by
  cases call with
  | commit =>
    show Calm c (after Client.commit c) ∧ (after Client.commit c).handled = c.handled ∧
      (after Client.commit c).invoked = c.invoked
    cases hc : c.client.client.connected with
    | true =>
      rw [commit_open hr hc]
      exact ⟨⟨rfl, rfl, rfl, rfl, rfl⟩, rfl, rfl⟩
    | false =>
      rw [commit_closed hr hc]
      obtain ⟨hcalm, -, hhandled, hinvoked⟩ := clearCallbacks_calm c.discarded
      have hdiscarded : Calm c c.discarded := ⟨rfl, rfl, rfl, rfl, rfl⟩
      exact ⟨hdiscarded.trans hcalm, hhandled, hinvoked⟩
  | _ => exact ⟨⟨rfl, rfl, rfl, rfl, rfl⟩, rfl, rfl⟩

theorem runCalls_calm {c : Client κ} (hr : c.reconnecting = false)
    (calls : List (PipelineCall κ)) :
    Calm c (c.runCalls calls) ∧ (c.runCalls calls).handled = c.handled ∧
      (c.runCalls calls).invoked = c.invoked := by
  induction calls generalizing c with
  | nil => exact ⟨.refl c, rfl, rfl⟩
  | cons call calls ih =>
    obtain ⟨hcalm, hhandled, hinvoked⟩ := call.calm hr
    obtain ⟨hcalm', hhandled', hinvoked'⟩ := ih (hcalm.reconnecting.trans hr)
    exact ⟨hcalm.trans hcalm', hhandled'.trans hhandled, hinvoked'.trans hinvoked⟩

/-! ## The two stores -/

/-- A connected client: the commands `sent` on the connection and those `held` in
the buffer are those of the entries `done`, which were answered on it, and of the
queue. These entries are those that were pushed after those of `base`. -/
structure Queued (c : Client κ) (base : List (CommandRequest κ)) (sent held : List Command)
    (done : List (CommandRequest κ)) : Prop where
  connected : c.client.client.connected = true
  written : c.client.client.written = encodeCommands sent
  buffer : c.client.buffer = encodeCommands held
  commands : sent ++ held = commandsOf (done ++ c.commands)
  issued : c.pushed = base ++ (done ++ c.commands)
  answered : done.length ≤ sent.length

/-- A client that is not connected: the buffer and the queue agree. -/
structure Waiting (c : Client κ) : Prop where
  closed : c.client.client.connected = false
  buffer : c.client.buffer = encodeCommands (commandsOf c.commands)
  issued : c.commands <:+ c.pushed

section Stores

variable {c : Client κ} {sent held : List Command} {base done : List (CommandRequest κ)}

/-- The queue and the buffer are cleared on a closed connection. -/
theorem Waiting.cleared (hc : c.client.client.connected = false) (hbuffer : c.client.buffer = []) :
    Waiting c.clearCallbacks := by
  obtain ⟨hcalm, hcommands, -⟩ := clearCallbacks_calm c
  refine ⟨hcalm.connected.trans hc, ?_, ?_⟩
  · rw [clearCallbacks_client, hcommands]
    exact hbuffer
  · rw [hcommands]
    exact List.nil_suffix

theorem append_suffix {α : Type} {xs ys : List α} (h : xs <:+ ys) (zs : List α) :
    xs ++ zs <:+ ys ++ zs := by
  obtain ⟨front, rfl⟩ := h
  exact ⟨front, (List.append_assoc front xs zs).symm⟩

theorem Queued.decode_written (h : Queued c base sent held done) :
    decodeCommands c.client.client.written = some sent :=
  h.written.symm ▸ decodeCommands_encodeCommands sent

theorem Queued.decode_buffer (h : Queued c base sent held done) :
    decodeCommands c.client.buffer = some held :=
  h.buffer.symm ▸ decodeCommands_encodeCommands held

/-- The commands written first are those of the entries that were answered. -/
theorem Queued.sent_taken (h : Queued c base sent held done) :
    sent.take done.length = commandsOf done :=
  Backlog.take_written h.commands h.answered

/-- The others, and those in the buffer, are those of the queue. -/
theorem Queued.sent_left (h : Queued c base sent held done) :
    sent.drop done.length ++ held = commandsOf c.commands :=
  Backlog.drop_written h.commands h.answered

theorem Queued.push (h : Queued c base sent held done) (request : CommandRequest κ) :
    Queued (c.push request) base sent (held ++ [request.command]) done where
  connected := h.connected
  written := h.written
  buffer := by
    show c.client.buffer ++ buildCommand request.command = _
    rw [h.buffer, encodeCommands_append, encodeCommands_singleton]
  commands := by
    show _ = commandsOf (done ++ (c.commands ++ [request]))
    rw [← List.append_assoc, ← List.append_assoc, h.commands, commandsOf_append _ [request]]
    rfl
  issued := by
    show c.pushed ++ [request] = base ++ (done ++ (c.commands ++ [request]))
    rw [h.issued, List.append_assoc, List.append_assoc]
  answered := h.answered

theorem Waiting.push (h : Waiting c) (request : CommandRequest κ) : Waiting (c.push request) where
  closed := h.closed
  buffer := by
    show c.client.buffer ++ buildCommand request.command =
      encodeCommands (commandsOf (c.commands ++ [request]))
    rw [h.buffer, commandsOf_append, encodeCommands_append]
    exact congrArg _ (encodeCommands_singleton request.command).symm
  issued := append_suffix h.issued [request]

/-- A commit writes the buffer behind what was written before. -/
theorem Queued.flush (h : Queued c base sent held done) :
    Queued (connection.update RedisConnection.flush c) base (sent ++ held) [] done where
  connected := h.connected
  written := by
    show c.client.client.written ++ c.client.buffer = _
    rw [h.written, h.buffer, encodeCommands_append]
  buffer := rfl
  commands := by
    rw [List.append_nil]
    exact h.commands
  issued := h.issued
  answered := h.answered.trans (List.length_append ▸ Nat.le_add_right _ _)

/-- A call on a connected client sends more commands or none. -/
theorem Queued.call (h : Queued c base sent held done) (hr : c.reconnecting = false)
    (call : PipelineCall κ) : ∃ more held', Queued (call.run c) base (sent ++ more) held' done := by
  cases call with
  | send redisCmd callback =>
    exact ⟨[], _, (List.append_nil sent).symm ▸ h.push ⟨redisCmd, callback.map .user⟩⟩
  | auth password callback =>
    have hstored : Queued { c with password := password } base sent held done :=
      ⟨h.connected, h.written, h.buffer, h.commands, h.issued, h.answered⟩
    exact ⟨[], _, (List.append_nil sent).symm ▸ hstored.push _⟩
  | select index callback =>
    have hstored : Queued { c with databaseIndex := index } base sent held done :=
      ⟨h.connected, h.written, h.buffer, h.commands, h.issued, h.answered⟩
    exact ⟨[], _, (List.append_nil sent).symm ▸ hstored.push _⟩
  | commit =>
    refine ⟨held, [], ?_⟩
    show Queued (after Client.commit c) _ _ _ _
    rw [commit_open hr h.connected]
    exact h.flush

theorem Queued.calls (h : Queued c base sent held done) (hr : c.reconnecting = false)
    (calls : List (PipelineCall κ)) :
    ∃ more held', Queued (c.runCalls calls) base (sent ++ more) held' done := by
  induction calls generalizing c sent held with
  | nil => exact ⟨[], held, (List.append_nil sent).symm ▸ h⟩
  | cons call calls ih =>
    obtain ⟨more, held', hcall⟩ := h.call hr call
    obtain ⟨more', held'', hcalls⟩ := ih hcall ((call.calm hr).1.reconnecting.trans hr)
    exact ⟨more ++ more', held'', List.append_assoc sent more more' ▸ hcalls⟩

/-- Calls on a closed connection keep the buffer and the queue equal; a commit
empties both. -/
theorem Waiting.call (h : Waiting c) (hr : c.reconnecting = false) (call : PipelineCall κ) :
    Waiting (call.run c) := by
  cases call with
  | send redisCmd callback => exact h.push _
  | auth password callback =>
    have hstored : Waiting { c with password := password } := ⟨h.closed, h.buffer, h.issued⟩
    exact hstored.push _
  | select index callback =>
    have hstored : Waiting { c with databaseIndex := index } := ⟨h.closed, h.buffer, h.issued⟩
    exact hstored.push _
  | commit =>
    show Waiting (after Client.commit c)
    rw [commit_closed hr h.closed]
    exact Waiting.cleared (c := c.discarded) h.closed rfl

theorem Waiting.calls (h : Waiting c) (hr : c.reconnecting = false)
    (calls : List (PipelineCall κ)) : Waiting (c.runCalls calls) := by
  induction calls generalizing c with
  | nil => exact h
  | cons call calls ih => exact ih (h.call hr call) ((call.calm hr).1.reconnecting.trans hr)

end Stores

/-! ## Replies -/

section Replies

variable {c : Client κ} {sent held : List Command} {base done : List (CommandRequest κ)}

/-- A reply takes the first entry out of the queue, and is given to the callback of it. -/
theorem Queued.answerFront (h : Queued c base sent held done) (hdone : done.length < sent.length)
    (reply : Reply) :
    ∃ request, (c.answerFront reply).handled = c.handled ++ [(request, reply)] ∧
      (c.answerFront reply).invoked = c.invoked ++ (callOf (request, reply)).toList ∧
      Queued (c.answerFront reply) base sent held (done ++ [request]) := by
  have hlength := congrArg List.length h.commands
  unfold commandsOf at hlength
  rw [List.length_append, List.length_map, List.length_append] at hlength
  obtain ⟨request, rest, hcommands⟩ :=
    List.exists_cons_of_length_pos (l := c.commands) (by omega)
  have hpopped : (c.answerFront reply).commands = rest := by
    show c.commands.tail = rest
    rw [hcommands]
    rfl
  have hentries : done ++ c.commands = done ++ [request] ++ (c.answerFront reply).commands := by
    rw [hpopped, hcommands, List.append_assoc]
    rfl
  refine ⟨request, ?_, ?_, h.connected, h.written, h.buffer, hentries ▸ h.commands,
    hentries ▸ h.issued, ?_⟩
  · show c.handled ++ _ = _
    rw [hcommands]
    rfl
  · show c.invoked ++ _ = _
    rw [hcommands]
    rfl
  · rw [List.length_append]
    exact hdone

/-- The callback of an entry makes the calls of the user's callback, or none. -/
theorem react_calling (callback : Option (Callback κ)) (calls : Option (List (PipelineCall κ)))
    (c : Client κ) :
    ∃ calls', react callback ((calls.map calling).getD (pure ())) c = .ok () (c.runCalls calls') := by
  unfold react
  split
  · cases calls with
    | none => exact ⟨[], rfl⟩
    | some calls => exact ⟨calls, rfl⟩
  · exact ⟨[], rfl⟩

/-- The handler makes the calls of the callback that the reply is for. -/
theorem connectionReceiveHandler_calling (calls : Option (List (PipelineCall κ))) (reply : Reply)
    (c : Client κ) :
    ∃ calls', connectionReceiveHandler (calls.map calling) reply c =
      .ok () ((c.answerFront reply).runCalls calls').countDown := by
  obtain ⟨calls', hreact⟩ := react_calling (c.commands.head?.bind CommandRequest.callback) calls
    (c.answerFront reply)
  exact ⟨calls', (bind_ok hreact _).trans rfl⟩

/-- One reply: it is handed to the first entry that is not answered. -/
theorem receive_queued (h : Queued c base sent held done) (hr : c.reconnecting = false)
    (hdone : done.length < sent.length) (calls : Option (List (PipelineCall κ))) (reply : Reply) :
    ∃ c' request more held', connectionReceiveHandler (calls.map calling) reply c = .ok () c' ∧
      c'.handled = c.handled ++ [(request, reply)] ∧
      c'.invoked = c.invoked ++ (callOf (request, reply)).toList ∧
      Queued c' base (sent ++ more) held' (done ++ [request]) ∧ Calm c c' := by
  obtain ⟨request, hhandled, hinvoked, hpopped⟩ := h.answerFront hdone reply
  have hpop : Calm c (c.answerFront reply) := ⟨rfl, rfl, rfl, rfl, rfl⟩
  obtain ⟨calls', hreceive⟩ := connectionReceiveHandler_calling calls reply c
  obtain ⟨hcalm, hkept, hcalled⟩ := runCalls_calm (c := c.answerFront reply) hr calls'
  obtain ⟨more, held', hcalls⟩ := hpopped.calls hr calls'
  generalize (c.answerFront reply).runCalls calls' = c₁ at hreceive hcalm hkept hcalled hcalls
  refine ⟨c₁.countDown, request, more, held', hreceive, hkept.trans hhandled,
    hcalled.trans hinvoked, ?_, ?_⟩
  · exact ⟨hcalls.connected, hcalls.written, hcalls.buffer, hcalls.commands, hcalls.issued,
      hcalls.answered⟩
  · exact (hpop.trans hcalm).trans ⟨rfl, rfl, rfl, rfl, rfl⟩

/-- While the replies of a chunk are delivered to `c`: the replies `rest` are left, and the
others were handed to the next entries, in their order, and given to their callbacks. -/
structure Delivering (c : Client κ) (base : List (CommandRequest κ)) (b : ReplyBuilder)
    (replies : List Reply) (sent : List Command) (done : List (CommandRequest κ)) (rest : List Reply)
    (c' : Client κ) : Prop where
  calm : Calm { c with client := { c.client with builder := b.prepend rest } } c'
  handed : ∃ entries more held, entries.map Prod.snd ++ rest = replies ∧
    c'.handled = c.handled ++ entries ∧ c'.invoked = c.invoked ++ entries.filterMap callOf ∧
    Queued c' base (sent ++ more) held (done ++ entries.map Prod.fst)

/-- One more reply is delivered. -/
theorem Delivering.turn {b : ReplyBuilder} {replies rest : List Reply} {reply : Reply} {c' : Client κ}
    (hr : c.reconnecting = false) (hdone : done.length + replies.length ≤ sent.length)
    (hnone : b.availableReplies = []) (h : Delivering c base b replies sent done (reply :: rest) c')
    (input : Option (List (PipelineCall κ))) :
    ∃ c'', connectionReceiveHandler (input.map calling) reply
        (connection.update (RedisConnection.popReply rest) c') = .ok () c'' ∧
      Delivering c base b replies sent done rest c'' := by
  obtain ⟨entries, more, held', hreplies, hhandled, hinvoked, hqueued⟩ := h.handed
  have hpop : Calm { c with client := { c.client with builder := b.prepend rest } }
      (connection.update (RedisConnection.popReply rest) c') :=
    ⟨h.calm.reconnecting, h.calm.connected, RedisConnection.popReply_builder hnone h.calm.builder,
      h.calm.replyCallback, h.calm.disconnectionHandler⟩
  have hpopped : Queued (connection.update (RedisConnection.popReply rest) c') base (sent ++ more)
      held' (done ++ entries.map Prod.fst) :=
    ⟨hqueued.connected, hqueued.written, hqueued.buffer, hqueued.commands, hqueued.issued,
      hqueued.answered⟩
  have hlt : (done ++ entries.map Prod.fst).length < (sent ++ more).length := by
    have := congrArg List.length hreplies
    rw [List.length_append, List.length_map, List.length_cons] at this
    rw [List.length_append, List.length_append, List.length_map]
    omega
  obtain ⟨c'', request, more', held'', hreceive, hhandled', hinvoked', hnext, hcalm⟩ :=
    receive_queued hpopped (h.calm.reconnecting.trans hr) hlt input reply
  refine ⟨c'', hreceive, hpop.trans hcalm, entries ++ [(request, reply)], more ++ more', held'',
    ?_, ?_, ?_, ?_⟩
  · rw [← hreplies, List.map_append, List.append_assoc]
    rfl
  · exact hhandled'.trans (by rw [← List.append_assoc, ← hhandled]; rfl)
  · rw [List.filterMap_append, filterMap_singleton, ← List.append_assoc, ← hinvoked]
    exact hinvoked'
  · rw [← List.append_assoc, List.map_append, ← List.append_assoc]
    exact hnext

/-- A chunk that arrives in whole: the replies that it completes are handed to the
next entries, and the connection is read again. -/
theorem receive_chunk (notify : Notification → EStateM Fault (Client κ) Unit) {data : Bytes}
    {b : ReplyBuilder} {replies : List Reply} (callbacks : List (List (PipelineCall κ)))
    (h : Queued c base sent held done) (hr : c.reconnecting = false)
    (hset : c.client.replyCallback = true) (hnone : b.availableReplies = [])
    (hfeed : c.client.builder.feed data = (b.prepend replies, .ok ()))
    (hdone : done.length + replies.length ≤ sent.length) :
    let c' := after (receive notify (some data) (callbacks.map calling) id []) c
    ∃ entries more held', entries.map Prod.snd = replies ∧ c'.handled = c.handled ++ entries ∧
      c'.invoked = c.invoked ++ entries.filterMap callOf ∧
      Queued c' base (sent ++ more) held' (done ++ entries.map Prod.fst) ∧
      Calm { c with client := { c.client with builder := b } } c' := by
  have havailable := b.availableReplies_prepend hnone
  have hstart : Delivering c base b replies sent done (b.prepend replies).availableReplies
      (connection.set { c.client with builder := b.prepend replies } c) := by
    refine ⟨⟨rfl, rfl, congrArg b.prepend (havailable replies).symm, rfl, rfl⟩, [], [], held,
      havailable replies, (List.append_nil _).symm, (List.append_nil _).symm, ?_⟩
    rw [List.append_nil, List.map_nil, List.append_nil]
    exact ⟨h.connected, h.written, h.buffer, h.commands, h.issued, h.answered⟩
  have hbuilder {rest : List Reply} {c' : Client κ}
      (hc' : Delivering c base b replies sent done rest c') :
      c'.client.builder.availableReplies = rest ∧ c'.client.replyCallback = true := by
    rw [hc'.calm.builder]
    exact ⟨havailable rest, hc'.calm.replyCallback.trans hset⟩
  have hopen {c' : Client κ} (hc' : Delivering c base b replies sent done [] c') :
      c'.client.client.connected = true :=
    hc'.calm.connected.trans h.connected
  obtain ⟨c₂, hend, hreceive⟩ := RedisConnection.receive_ok (P := Delivering c base b replies sent done)
    hbuilder (fun input hc' => hc'.turn hr hdone hnone input) hopen
    (connectionDisconnectionHandler notify id []) callbacks hfeed hstart
  obtain ⟨entries, more, held', hreplies, hhandled, hinvoked, h₂⟩ := hend.handed
  unfold receive
  dsimp only
  rw [hreceive]
  refine ⟨entries, more, held', (List.append_nil _).symm.trans hreplies, hhandled, hinvoked, ?_, ?_⟩
  · exact ⟨h₂.connected, h₂.written, h₂.buffer, h₂.commands, h₂.issued, h₂.answered⟩
  · exact ⟨hend.calm.reconnecting, hend.calm.connected, hend.calm.builder, hend.calm.replyCallback,
      hend.calm.disconnectionHandler⟩

end Replies

/-! ## Connecting and losing a connection -/

section Connecting

variable {notify : Notification → EStateM Fault (Client κ) Unit}

/-- A connect callback that makes no client call. It may throw out of `connect`, but
not out of the handler of a lost connection, where nothing would catch it. -/
structure Reticent (notify : Notification → EStateM Fault (Client κ) Unit) : Prop where
  after_eq : ∀ n c, after (notify n) c = c
  returns : ∀ n c, n.state = .dropped ∨ n.state = .stopped → notify n c = .ok () c

/-- What connecting does to a client, other than to its session's bookkeeping: the
link is left as it is, or a closed one is opened. -/
structure Dialled (c c' : Client κ) : Prop where
  reconnecting : c'.reconnecting = c.reconnecting
  commands : c'.commands = c.commands
  pushed : c'.pushed = c.pushed
  link : c'.client = c.client ∨ (∃ endpoint, c'.client = c.client.refuse endpoint) ∨
    c.client.client.connected = false ∧ ∃ endpoint, c'.client = c.client.accept endpoint true true

theorem callConnectCallback_reticent (hn : Reticent notify) (host : Bytes) (port : Nat)
    (state : ConnectState) (c : Client κ) :
    ∃ notified, after ((owner notify).callConnectCallback host port state) c =
      { c with notified := notified } := by
  unfold Owner.callConnectCallback
  rw [after_get_bind]
  split
  · rw [after_modify_bind]
    exact ⟨c.notified ++ [⟨host, port, state⟩], (hn.after_eq ⟨host, port, state⟩ _).trans rfl⟩
  · exact ⟨c.notified, rfl⟩

theorem notifyState_reticent (hn : Reticent notify) (state : ConnectState) (c : Client κ) :
    ∃ notified, after ((owner notify).notifyState state) c = { c with notified := notified } :=
  callConnectCallback_reticent hn _ _ state c

/-- `connect`, however it is left. -/
theorem connect_dialled (hn : Reticent notify) (p : Session.ConnectParams) (accepted : Bool)
    (c : Client κ) :
    Dialled c (after (connect notify p accepted) c) := by
  unfold connect Owner.connect
  rw [after_modify_bind]
  obtain ⟨notified, hstart⟩ := callConnectCallback_reticent hn p.host p.port .start
    ((owner notify).session.update (·.saveConnect p) c)
  cases hcall : (owner notify).callConnectCallback p.host p.port .start
      ((owner notify).session.update (·.saveConnect p) c) with
  | error e c₁ =>
    rw [after_error hcall] at hstart
    rw [after_bind_error hcall, hstart]
    exact ⟨rfl, rfl, rfl, .inl rfl⟩
  | ok u c₁ =>
    rw [after_ok hcall] at hstart
    rw [after_bind_ok hcall]
    by_cases hrefused : c.client.client.connected = true ∨ accepted = false
    · have hdial := (owner notify).session.zoom_error (s := c₁) (Session.connection.zoom_error
        (s := c₁.toSession) (RedisConnection.connect_refused (c := c₁.client) p.host p.port true
          true p.timeoutMsecs (by rw [hstart]; exact hrefused)))
      rw [after_bind_error hdial, hstart]
      exact ⟨rfl, rfl, rfl, .inr (.inl ⟨_, rfl⟩)⟩
    · rw [not_or, Bool.not_eq_true, Bool.not_eq_false] at hrefused
      obtain ⟨hc, rfl⟩ := hrefused
      have hdial := (owner notify).session.zoom_ok (s := c₁) (Session.connection.zoom_ok
        (s := c₁.toSession) (RedisConnection.connect_accepted (c := c₁.client) p.host p.port true
          true p.timeoutMsecs (by rw [hstart]; exact hc)))
      rw [after_bind_ok hdial]
      obtain ⟨notified', hok⟩ := notifyState_reticent hn .ok ((owner notify).session.set
        (Session.connection.set (c₁.client.accept ⟨p.host, p.port % 2 ^ 32, p.timeoutMsecs⟩ true
          true) c₁.toSession) c₁)
      rw [hok, hstart]
      exact ⟨rfl, rfl, rfl, .inr (.inr ⟨hc, _, rfl⟩)⟩

/-- The same by the name of the master: where the lookup finds none, nothing is dialled. -/
theorem connectByName_dialled (hn : Reticent notify) (name : Bytes) (p : Session.ConnectParams)
    (lookup : Lookup) (accepted : Bool) (c : Client κ) :
    Dialled c (after (connectByName notify name p lookup accepted) c) := by
  unfold connectByName Owner.connectByName
  rw [after_modify_bind]
  generalize hnamed : (owner notify).session.update (fun s => { s with masterName := name }) c = c₁
  obtain ⟨host, port, hlookup⟩ := Session.after_getMasterAddrByName lookup c₁.toSession
  have hzoom := (owner notify).session.after_zoom (Session.getMasterAddrByName lookup) c₁
  have hfound : after ((owner notify).session.zoom (Session.getMasterAddrByName lookup)) c₁ =
      { c with masterName := name, redisServer := host, redisPort := port } := by
    rw [hzoom, ← hnamed]
    rw [← hnamed] at hlookup
    exact congrArg (session.set · c) hlookup
  cases hcall : (owner notify).session.zoom (Session.getMasterAddrByName lookup) c₁ with
  | error e c₂ =>
    rw [after_error hcall] at hfound
    rw [after_bind_error hcall, hfound]
    exact ⟨rfl, rfl, rfl, .inl rfl⟩
  | ok found c₂ =>
    rw [after_ok hcall] at hfound
    rw [after_bind_ok hcall, hfound]
    cases found with
    | true =>
      rw [if_pos rfl, after_get_bind]
      have hdialled := connect_dialled hn { p with host := host, port := port } accepted
        { c with masterName := name, redisServer := host, redisPort := port }
      exact ⟨hdialled.reconnecting, hdialled.commands, hdialled.pushed, hdialled.link⟩
    | false => exact ⟨rfl, rfl, rfl, .inl rfl⟩

/-- What the handler tells the callback does not change the client otherwise. -/
theorem notifyState_told (hn : Reticent notify) {state : ConnectState}
    (hstate : state = .dropped ∨ state = .stopped) (c : Client κ) :
    ∃ notified, (owner notify).notifyState state c = .ok () { c with notified := notified } := by
  unfold Owner.notifyState Owner.callConnectCallback
  rw [get_bind, get_bind]
  split
  · rw [modify_bind]
    exact ⟨c.notified ++ [⟨c.redisServer, c.redisPort, state⟩],
      (hn.returns ⟨c.redisServer, c.redisPort, state⟩ _ hstate).trans rfl⟩
  · exact ⟨c.notified, rfl⟩

/-- With no attempt allowed the loop is left at once. -/
theorem reconnectLoop_none {c : Client κ} (hmax : c.maxReconnects = 0)
    (hattempts : c.currentReconnectAttempts = 0) :
    (owner notify).reconnectLoop [] c = .ok true c := by
  have hstop : ((owner notify).session.get c).shouldReconnect = false := by
    show (_ && (c.maxReconnects == -1 || c.currentReconnectAttempts < c.maxReconnects)) = false
    rw [hmax, hattempts]
    exact Bool.and_false _
  unfold Owner.reconnectLoop
  rw [get_bind, hstop]
  rfl

/-- The handler of a lost connection, without automatic reconnection: it gives up
at once and fails all that is in the queue. -/
theorem connectionDisconnectionHandler_reticent (hn : Reticent notify) {c : Client κ}
    (hr : c.reconnecting = false) (hmax : c.maxReconnects = 0)
    (hc : c.client.client.connected = false) :
    let c' := after (connectionDisconnectionHandler notify id []) c
    c'.reconnecting = false ∧ c'.commands = [] ∧ c'.client = c.client := by
  obtain ⟨notified, hdropped⟩ := notifyState_told hn (.inl rfl)
    ((owner notify).session.update Session.beginReconnection c)
  generalize hc₁ : { (owner notify).session.update Session.beginReconnection c with
    notified := notified } = c₁ at hdropped
  have hloop : (owner notify).reconnectLoop [] (id c₁) = .ok true c₁ := by
    rw [← hc₁]
    exact reconnectLoop_none hmax rfl
  have hclient : c₁.client = c.client := by
    rw [← hc₁]
    rfl
  have hgone : ((owner notify).session.get c₁).isConnected = false := by
    rw [← hc₁]
    exact hc
  obtain ⟨-, hcommands, -⟩ := clearCallbacks_calm c₁
  obtain ⟨notified', hstopped⟩ := notifyState_told hn (.inr rfl) c₁.clearCallbacks
  have hgiveUp : (owner notify).giveUp = modify clearCallbacks := rfl
  have hresult : after (connectionDisconnectionHandler notify id []) c =
      { c₁.clearCallbacks with notified := notified', reconnecting := false } := by
    have hr' : ((owner notify).session.get c).reconnecting = false := hr
    unfold connectionDisconnectionHandler Owner.connectionDisconnectionHandler
    rw [after_get_bind, hr', if_neg Bool.false_ne_true, after_modify_bind, after_bind_ok hdropped,
      after_modify_bind, after_bind_ok hloop, if_pos rfl, after_bind_pure]
    unfold Owner.finishReconnection
    rw [after_get_bind, hgone, Bool.not_false, if_pos rfl, hgiveUp, after_modify_bind,
      after_bind_ok hstopped]
    rfl
  dsimp only
  rw [hresult]
  exact ⟨rfl, hcommands, (clearCallbacks_client c₁).trans hclient⟩

/-- A lost connection: the buffer, the parser and the queue are cleared. -/
theorem drop_reticent (hn : Reticent notify) {c : Client κ} (hr : c.reconnecting = false)
    (hmax : c.maxReconnects = 0) (hset : c.client.disconnectionHandler = true) :
    let c' := after (drop notify id id []) c
    c'.reconnecting = false ∧ c'.commands = [] ∧ c'.client = c.client.lose.clear := by
  generalize hcleared : connection.update RedisConnection.clear
    (connection.update RedisConnection.lose c) = c₁
  have hset₁ : (connection.get c₁).disconnectionHandler = true := by
    rw [← hcleared]
    exact hset
  have hdrop : after (drop notify id id []) c =
      after (connectionDisconnectionHandler notify id []) c₁ := by
    unfold drop tcpClientDisconnectionHandler callDisconnectionHandler
    rw [after_modify_bind, after_modify_bind, after_modify_bind, id, hcleared, after_get_bind,
      if_pos hset₁]
  have hhandler := connectionDisconnectionHandler_reticent hn (c := c₁) (by rw [← hcleared]; exact hr)
    (by rw [← hcleared]; exact hmax) (by rw [← hcleared]; rfl)
  dsimp only at hhandler ⊢
  rw [hdrop]
  obtain ⟨hr', hcommands, hclient⟩ := hhandler
  exact ⟨hr', hcommands, hclient.trans (by rw [← hcleared]; rfl)⟩

end Connecting

/-! ## A client and its server -/

/-- A client and the connection it is on: the answers of the server, the bytes of
these that were not read yet, the entries popped for a reply that was read, and the
callbacks called for one. -/
structure World (κ : Type) where
  client : Client κ
  answers : List Value := []
  inFlight : Bytes := []
  exchanged : List (CommandRequest κ × Reply) := []
  called : List (Callback κ × Reply) := []

namespace World

/-- What happens. A chunk is cut off the bytes in flight; its callbacks, and those
that a failure thread calls, come with the calls that they make. -/
inductive Event (κ : Type)
  | call (call : PipelineCall κ)
  | connect (p : Session.ConnectParams) (accepted : Bool)
  | connectByName (name : Bytes) (p : Session.ConnectParams) (lookup : Lookup) (accepted : Bool)
  | disconnect
  | answer (value : Value)
  | chunk (size : Nat) (callbacks : List (List (PipelineCall κ)))
  | drop
  | failure (i : Nat) (calls : List (PipelineCall κ))

/-- A client that was made and not used yet. -/
def new (sentinel : Sentinel) (what : String) : World κ where
  client := { client := { client := { what := what } }, sentinel := sentinel }

/-- The server answers a command that it has not answered yet. Bytes are read by a
request on an open connection. -/
def Enabled (w : World κ) : Event κ → Prop
  | .answer value =>
    w.client.isConnected = true ∧ value.WellFormed ∧
      ∃ written ∈ decodeCommands w.client.client.client.written, w.answers.length < written.length
  | .chunk _ _ => w.client.isConnected = true ∧ 0 < w.client.client.client.reads
  | .drop => w.client.isConnected = true ∧ w.client.maxReconnects = 0
  | _ => True

variable (notify : Notification → EStateM Fault (Client κ) Unit)

/-- The client reads some bytes. The entries popped and the callbacks called are the last
ones of its history. -/
def read (w : World κ) (size : Nat) (callbacks : List (List (PipelineCall κ))) : World κ :=
  let c := after (Client.receive notify (some (w.inFlight.take size)) (callbacks.map calling) id [])
    (connection.update RedisConnection.completeRead w.client)
  { w with
    client := c
    inFlight := w.inFlight.drop size
    exchanged := w.exchanged ++ c.handled.drop w.client.handled.length
    called := w.called ++ c.invoked.drop w.client.invoked.length }

/-- With the connection, what was on its way is lost. -/
def step (w : World κ) : Event κ → World κ
  | .call call => { w with client := call.run w.client }
  | .connect p accepted => { w with client := after (Client.connect notify p accepted) w.client }
  | .connectByName name p lookup accepted =>
    { w with client := after (Client.connectByName notify name p lookup accepted) w.client }
  | .disconnect => { client := w.client.disconnect }
  | .answer value =>
    { w with answers := w.answers ++ [value], inFlight := w.inFlight ++ value.encode }
  | .chunk size callbacks => w.read notify size callbacks
  | .drop => { client := after (Client.drop notify id id []) w.client }
  | .failure i calls => { w with client := after (Client.failureStep i (calling calls)) w.client }

/-- A client, its server, and what happens. -/
def machine : Machine (World κ) (Event κ) :=
  ⟨Enabled, step notify⟩

/-- The client is in step with the connection. On an open one, the answers that no entry
was popped for are those that the parser will make of the bytes in flight; the commands
written and not yet answered and those in the send buffer are the commands of the queue;
the entries answered on it and those in the queue are the last ones that were pushed, in
their order; the entries answered were popped for the answers to the commands written
first; and the callbacks called are theirs, each with the answer. On a closed one, the
buffer is the queue. -/
def InStep (w : World κ) : Prop :=
  if w.client.isConnected then
    w.exchanged.length ≤ w.answers.length ∧
    w.client.client.builder.Pending w.inFlight (w.answers.drop w.exchanged.length) ∧
    ∃ written ∈ decodeCommands w.client.client.client.written,
    ∃ buffered ∈ decodeCommands w.client.client.buffer,
      written.drop w.exchanged.length ++ buffered = commandsOf w.client.commands ∧
      w.exchanged.map Prod.fst ++ w.client.commands <:+ w.client.pushed ∧
      w.exchanged.map (fun e => (e.1.command, e.2)) <+: written.zip (w.answers.map Value.toReply) ∧
      w.called = w.exchanged.filterMap callOf
  else
    decodeCommands w.client.client.buffer = some (commandsOf w.client.commands)

/-! ### The invariant -/

/-- An open connection on which `sent` was written. -/
structure Opened (w : World κ) (base : List (CommandRequest κ)) (sent held : List Command) :
    Prop where
  queued : Queued w.client base sent held (w.exchanged.map Prod.fst)
  replies : w.exchanged.map Prod.snd = (w.answers.take w.exchanged.length).map Value.toReply
  called : w.called = w.exchanged.filterMap callOf
  exchanged : w.exchanged.length ≤ w.answers.length
  answers : w.answers.length ≤ sent.length
  pending : w.client.client.builder.Pending w.inFlight (w.answers.drop w.exchanged.length)
  replyCallback : w.client.client.replyCallback = true
  disconnectionHandler : w.client.client.disconnectionHandler = true

/-- A closed connection: nothing is left of the one before. -/
structure Closed (w : World κ) : Prop where
  waiting : Waiting w.client
  builder : w.client.client.builder = {}
  answers : w.answers = []
  inFlight : w.inFlight = []
  exchanged : w.exchanged = []
  called : w.called = []

structure Inv (w : World κ) : Prop where
  reconnecting : w.client.reconnecting = false
  link : w.Closed ∨ ∃ base sent held, w.Opened base sent held

section Invariant

variable {notify} {w : World κ} {base : List (CommandRequest κ)} {sent held : List Command}
  {c' : Client κ}

/-- The world of an open connection, when the client has sent some more. -/
theorem Opened.client (h : w.Opened base sent held) (hcalm : Calm w.client c')
    {more held' : List Command}
    (hqueued : Queued c' base (sent ++ more) held' (w.exchanged.map Prod.fst)) :
    Opened { w with client := c' } base (sent ++ more) held' where
  queued := hqueued
  replies := h.replies
  called := h.called
  exchanged := h.exchanged
  answers := h.answers.trans (List.length_append ▸ Nat.le_add_right _ _)
  pending := by
    show c'.client.builder.Pending w.inFlight (w.answers.drop w.exchanged.length)
    rw [hcalm.builder]
    exact h.pending
  replyCallback := hcalm.replyCallback.trans h.replyCallback
  disconnectionHandler := hcalm.disconnectionHandler.trans h.disconnectionHandler

theorem Closed.client (h : w.Closed) (hcalm : Calm w.client c') (hwaiting : Waiting c') :
    Closed { w with client := c' } :=
  ⟨hwaiting, hcalm.builder.trans h.builder, h.answers, h.inFlight, h.exchanged, h.called⟩

/-- Calls on an open connection. -/
theorem Opened.calls (h : w.Opened base sent held) (hr : w.client.reconnecting = false)
    (calls : List (PipelineCall κ)) :
    ∃ more held', Opened { w with client := w.client.runCalls calls } base (sent ++ more) held' := by
  obtain ⟨more, held', hqueued⟩ := h.queued.calls hr calls
  exact ⟨more, held', h.client (runCalls_calm hr calls).1 hqueued⟩

/-- Calls, made by the user or by a callback. -/
theorem Inv.calls (h : w.Inv) (calls : List (PipelineCall κ)) :
    Inv { w with client := w.client.runCalls calls } := by
  obtain ⟨hcalm, -⟩ := runCalls_calm h.reconnecting calls
  refine ⟨hcalm.reconnecting.trans h.reconnecting, ?_⟩
  rcases h.link with hclosed | ⟨base, sent, held, hopened⟩
  · exact .inl (hclosed.client hcalm (hclosed.waiting.calls h.reconnecting calls))
  · obtain ⟨more, held', hopened'⟩ := hopened.calls h.reconnecting calls
    exact .inr ⟨_, _, _, hopened'⟩

/-- A step that leaves the two stores and the connection as they are. -/
structure Same (c c' : Client κ) : Prop extends Calm c c' where
  written : c'.client.client.written = c.client.client.written
  buffer : c'.client.buffer = c.client.buffer
  commands : c'.commands = c.commands
  pushed : c'.pushed = c.pushed

theorem Same.queued {c : Client κ} {done : List (CommandRequest κ)} (h : Same c c')
    (hqueued : Queued c base sent held done) : Queued c' base sent held done where
  connected := h.connected.trans hqueued.connected
  written := h.written.trans hqueued.written
  buffer := h.buffer.trans hqueued.buffer
  commands := h.commands ▸ hqueued.commands
  issued := h.commands ▸ h.pushed ▸ hqueued.issued
  answered := hqueued.answered

theorem Same.waiting {c : Client κ} (h : Same c c') (hwaiting : Waiting c) : Waiting c' where
  closed := h.connected.trans hwaiting.closed
  buffer := h.commands ▸ h.buffer.trans hwaiting.buffer
  issued := h.commands ▸ h.pushed ▸ hwaiting.issued

theorem Opened.same (h : w.Opened base sent held) (hsame : Same w.client c') :
    Opened { w with client := c' } base sent held := by
  have hqueued := hsame.queued h.queued
  rw [← List.append_nil sent] at hqueued ⊢
  exact h.client hsame.toCalm hqueued

theorem Inv.same (h : w.Inv) (hsame : Same w.client c') : Inv { w with client := c' } := by
  refine ⟨hsame.reconnecting.trans h.reconnecting, ?_⟩
  rcases h.link with hclosed | ⟨base, sent, held, hopened⟩
  · exact .inl (hclosed.client hsame.toCalm (hsame.waiting hclosed.waiting))
  · exact .inr ⟨_, _, _, hopened.same hsame⟩

/-- A new connection: what waited in the buffer is all that there is to answer. -/
theorem Closed.accept (h : w.Closed) {endpoint : Endpoint}
    (hlink : c'.client = w.client.client.accept endpoint true true)
    (hcommands : c'.commands = w.client.commands) (hissued : c'.pushed = base ++ w.client.commands) :
    Opened { w with client := c' } base [] (commandsOf c'.commands) where
  queued := by
    show Queued c' base [] _ (w.exchanged.map Prod.fst)
    rw [h.exchanged]
    refine ⟨by rw [hlink]; rfl, by rw [hlink]; rfl, ?_, rfl, ?_, Nat.le_refl 0⟩
    · rw [hlink, hcommands]
      exact h.waiting.buffer
    · rw [hcommands, hissued]
      rfl
  replies := by
    show w.exchanged.map Prod.snd = (w.answers.take w.exchanged.length).map Value.toReply
    rw [h.exchanged, h.answers]
    rfl
  called := by
    show w.called = w.exchanged.filterMap callOf
    rw [h.called, h.exchanged]
    rfl
  exchanged := by
    show w.exchanged.length ≤ w.answers.length
    rw [h.exchanged]
    exact Nat.zero_le _
  answers := by
    show w.answers.length ≤ 0
    rw [h.answers]
    rfl
  pending := by
    show c'.client.builder.Pending w.inFlight (w.answers.drop w.exchanged.length)
    have hbuilder : c'.client.builder = {} := by
      rw [hlink]
      exact h.builder
    rw [hbuilder, h.inFlight, h.answers, List.drop_nil]
    exact .new
  replyCallback := by
    show c'.client.replyCallback = true
    rw [hlink]
    rfl
  disconnectionHandler := by
    show c'.client.disconnectionHandler = true
    rw [hlink]
    rfl

/-- Connecting, successful or not. -/
theorem Inv.dialled (h : w.Inv) (hdialled : Dialled w.client c') : Inv { w with client := c' } := by
  obtain ⟨hr, hcommands, hpushed, hlink | ⟨endpoint, hlink⟩ | ⟨hc, endpoint, hlink⟩⟩ := hdialled
  · refine h.same ⟨⟨hr, ?_, ?_, ?_, ?_⟩, ?_, ?_, hcommands, hpushed⟩ <;> rw [hlink]
  · refine h.same ⟨⟨hr, ?_, ?_, ?_, ?_⟩, ?_, ?_, hcommands, hpushed⟩ <;> rw [hlink] <;> rfl
  · refine ⟨hr.trans h.reconnecting, .inr ?_⟩
    rcases h.link with hclosed | ⟨base, sent, held, hopened⟩
    · obtain ⟨base, hissued⟩ := hclosed.waiting.issued
      exact ⟨_, _, _, hclosed.accept hlink hcommands (hpushed.trans hissued.symm)⟩
    · exact absurd (hopened.queued.connected.symm.trans hc) Bool.noConfusion

/-- In every state the parser has handed out all replies that it has made. -/
theorem Inv.reset (h : w.Inv) : w.client.client.builder.reset = {} := by
  have hnone : w.client.client.builder.availableReplies = [] := by
    rcases h.link with hclosed | ⟨base, sent, held, hopened⟩
    · rw [hclosed.builder]
    · exact hopened.pending.none_available
  unfold ReplyBuilder.reset
  rw [hnone]

theorem Inv.disconnect (h : w.Inv) : Inv { client := w.client.disconnect } := by
  have hcleared := clearCallbacks_calm { w.client with client := w.client.client.disconnect }
  obtain ⟨hcalm, -⟩ := hcleared
  exact ⟨hcalm.reconnecting.trans h.reconnecting,
    .inl ⟨.cleared rfl rfl, hcalm.builder.trans h.reset, rfl, rfl, rfl, rfl⟩⟩

theorem Inv.drop (hn : Reticent notify) (h : w.Inv) (hc : w.client.isConnected = true)
    (hmax : w.client.maxReconnects = 0) :
    Inv { client := after (Client.drop notify id id []) w.client } := by
  rcases h.link with hclosed | ⟨base, sent, held, hopened⟩
  · exact absurd (hc.symm.trans hclosed.waiting.closed) Bool.noConfusion
  · obtain ⟨hr, hcommands, hclient⟩ :=
      drop_reticent hn h.reconnecting hmax hopened.disconnectionHandler
    generalize after (Client.drop notify id id []) w.client = c' at hr hcommands hclient
    refine ⟨hr, .inl ⟨⟨?_, ?_, ?_⟩, ?_, rfl, rfl, rfl, rfl⟩⟩
    · rw [hclient]
      rfl
    · rw [hclient, hcommands]
      rfl
    · rw [hcommands]
      exact List.nil_suffix
    · rw [hclient]
      exact h.reset

theorem Opened.answer (h : w.Opened base sent held) {value : Value} (hvalue : value.WellFormed)
    {written : List Command}
    (hwritten : decodeCommands w.client.client.client.written = some written)
    (hlt : w.answers.length < written.length) :
    Opened { w with answers := w.answers ++ [value], inFlight := w.inFlight ++ value.encode }
      base sent held := by
  obtain rfl := Option.some.inj (h.queued.decode_written.symm.trans hwritten)
  refine ⟨h.queued, ?_, h.called, ?_, ?_, ?_, h.replyCallback, h.disconnectionHandler⟩
  · dsimp only
    rw [List.take_append_of_le_length h.exchanged]
    exact h.replies
  · dsimp only
    rw [List.length_append]
    exact h.exchanged.trans (Nat.le_add_right _ _)
  · dsimp only
    rw [List.length_append]
    exact hlt
  · dsimp only
    rw [List.drop_append_of_le_length h.exchanged]
    exact h.pending.answer hvalue

theorem Inv.answer (h : w.Inv) {value : Value} (hvalue : value.WellFormed)
    (hc : w.client.isConnected = true) {written : List Command}
    (hwritten : decodeCommands w.client.client.client.written = some written)
    (hlt : w.answers.length < written.length) :
    Inv { w with answers := w.answers ++ [value], inFlight := w.inFlight ++ value.encode } := by
  refine ⟨h.reconnecting, ?_⟩
  rcases h.link with hclosed | ⟨base, sent, held, hopened⟩
  · exact absurd (hc.symm.trans hclosed.waiting.closed) Bool.noConfusion
  · exact .inr ⟨_, _, _, hopened.answer hvalue hwritten hlt⟩

/-- A chunk: the entries that it answers are handled with the next answers. -/
theorem Opened.read (h : w.Opened base sent held) (hr : w.client.reconnecting = false) (size : Nat)
    (callbacks : List (List (PipelineCall κ))) :
    (w.read notify size callbacks).client.reconnecting = false ∧
      (w.read notify size callbacks).client.client.builder.Settled ∧
      ∃ sent' held', Opened (w.read notify size callbacks) base sent' held' := by
  obtain ⟨b, replies, hfeed, hle, hreplies, hlater⟩ := h.pending.read h.exchanged size
  have hsame : Same w.client (connection.update RedisConnection.completeRead w.client) :=
    ⟨⟨rfl, rfl, rfl, rfl, rfl⟩, rfl, rfl, rfl, rfl⟩
  have hdone : (w.exchanged.map Prod.fst).length + replies.length ≤ sent.length := by
    rw [List.length_map]
    exact hle.trans h.answers
  obtain ⟨entries, more, held', hentries, hhandled, hinvoked, hqueued, hcalm⟩ :=
    receive_chunk notify callbacks (hsame.queued h.queued) hr h.replyCallback hlater.none_available
      hfeed hdone
  have hlength : entries.length = replies.length := by
    rw [← hentries, List.length_map]
  unfold World.read
  dsimp only
  generalize after (Client.receive notify (some (w.inFlight.take size)) (callbacks.map calling) id [])
    (connection.update RedisConnection.completeRead w.client) = c' at hhandled hinvoked hqueued hcalm ⊢
  -- what the step records as exchanged is what the chunk has handed out
  have hnew : c'.handled.drop w.client.handled.length = entries := by
    rw [hhandled]
    exact List.drop_left
  have hcalls : c'.invoked.drop w.client.invoked.length = entries.filterMap callOf := by
    rw [hinvoked]
    exact List.drop_left
  rw [hnew, hcalls]
  refine ⟨hcalm.reconnecting.trans hr, ?_, sent ++ more, held', ⟨?_, ?_, ?_, ?_, ?_, ?_, ?_, ?_⟩⟩
  · rw [hcalm.builder]
    exact ReplyBuilder.settled_of_prepend hfeed
  · dsimp only
    rw [List.map_append]
    exact hqueued
  · dsimp only
    rw [List.map_append, h.replies, hentries, List.length_append, hlength, List.take_add,
      List.map_append, ← hreplies]
  · dsimp only
    rw [List.filterMap_append, h.called]
  · dsimp only
    rw [List.length_append, hlength]
    exact hle
  · dsimp only
    rw [List.length_append]
    exact h.answers.trans (Nat.le_add_right _ _)
  · dsimp only
    rw [hcalm.builder, List.length_append, hlength]
    exact hlater
  · exact hcalm.replyCallback.trans h.replyCallback
  · exact hcalm.disconnectionHandler.trans h.disconnectionHandler

theorem Inv.read (h : w.Inv) (hc : w.client.isConnected = true) (size : Nat)
    (callbacks : List (List (PipelineCall κ))) : Inv (w.read notify size callbacks) := by
  rcases h.link with hclosed | ⟨base, sent, held, hopened⟩
  · exact absurd (hc.symm.trans hclosed.waiting.closed) Bool.noConfusion
  · obtain ⟨hr, -, sent', held', hopened'⟩ := hopened.read h.reconnecting size callbacks
    exact ⟨hr, .inr ⟨_, _, _, hopened'⟩⟩

/-- A turn of a failure thread takes an entry of it, or none, and makes the calls of a callback. -/
theorem failureStep_calling (i : Nat) (calls : List (PipelineCall κ)) (c : Client κ) :
    ∃ c₁ calls', Same c c₁ ∧
      Same (c₁.runCalls calls') (after (Client.failureStep i (calling calls)) c) := by
  unfold failureStep
  rw [after_get_bind]
  split
  · next request rest hi =>
    obtain ⟨calls', hreact⟩ := react_calling request.callback (some calls) (c.failFront i request rest)
    have hafter : after (do
        modify (popFailed i request rest)
        invoke request.callback networkFailure (calling calls)
        modify countDown) c = ((c.failFront i request rest).runCalls calls').countDown :=
      after_bind_ok hreact fun _ => modify countDown
    refine ⟨c.failFront i request rest, calls', ⟨⟨rfl, rfl, rfl, rfl, rfl⟩, rfl, rfl, rfl, rfl⟩, ?_⟩
    rw [hafter]
    exact ⟨⟨rfl, rfl, rfl, rfl, rfl⟩, rfl, rfl, rfl, rfl⟩
  · exact ⟨c, [], ⟨.refl c, rfl, rfl, rfl, rfl⟩, .refl c, rfl, rfl, rfl, rfl⟩

theorem Inv.failure (h : w.Inv) (i : Nat) (calls : List (PipelineCall κ)) :
    Inv { w with client := after (Client.failureStep i (calling calls)) w.client } := by
  obtain ⟨c₁, calls', hsame, hsame'⟩ := failureStep_calling i calls w.client
  exact ((h.same hsame).calls calls').same hsame'

/-- Every step that can happen keeps the invariant. -/
theorem Inv.step (hn : Reticent notify) (h : w.Inv) (e : Event κ) (he : w.Enabled e) :
    Inv (w.step notify e) := by
  cases e with
  | call call => exact h.calls [call]
  | connect p accepted => exact h.dialled (connect_dialled hn p accepted w.client)
  | connectByName name p lookup accepted =>
    exact h.dialled (connectByName_dialled hn name p lookup accepted w.client)
  | disconnect => exact h.disconnect
  | answer value =>
    obtain ⟨hc, hvalue, written, hwritten, hlt⟩ := he
    exact h.answer hvalue hc hwritten hlt
  | chunk size callbacks => exact h.read he.1 size callbacks
  | drop => exact h.drop hn he.1 he.2
  | failure i calls => exact h.failure i calls

theorem Inv.new (sentinel : Sentinel) (what : String) : Inv (new sentinel what : World κ) :=
  ⟨rfl, .inl ⟨⟨rfl, rfl, List.nil_suffix⟩, rfl, rfl, rfl, rfl, rfl⟩⟩

/-- The entries answered were popped for the answers to the commands written first. -/
theorem Opened.exchanged_prefix (h : w.Opened base sent held) :
    w.exchanged.map (fun e => (e.1.command, e.2)) <+: sent.zip (w.answers.map Value.toReply) :=
  Backlog.answered_prefix h.queued.commands h.queued.answered (h.replies.trans List.map_take)

/-- What the invariant says to someone who looks at the bytes. -/
theorem Inv.inStep (h : w.Inv) : w.InStep := by
  unfold InStep
  rcases h.link with hclosed | ⟨base, sent, held, hopened⟩
  · have hc : w.client.isConnected = false := hclosed.waiting.closed
    rw [hc, if_neg Bool.false_ne_true, hclosed.waiting.buffer, decodeCommands_encodeCommands]
  · have hc : w.client.isConnected = true := hopened.queued.connected
    have hleft := hopened.queued.sent_left
    rw [List.length_map] at hleft
    rw [if_pos hc]
    exact ⟨hopened.exchanged, hopened.pending, sent, hopened.queued.decode_written, held,
      hopened.queued.decode_buffer, hleft, ⟨base, hopened.queued.issued.symm⟩,
      hopened.exchanged_prefix, hopened.called⟩

end Invariant

/-! ### Every run -/

/-- Without automatic reconnection, in every state of every run the client is in
step with the connection: `m_commands` is what was written and not answered, and
then what is in the buffer, and every reply that was read was handed to the entry of
the command that it answers, whose callback was called with it. -/
theorem inStep_run {notify : Notification → EStateM Fault (Client κ) Unit} (hn : Reticent notify)
    (sentinel : Sentinel) (what : String) {events : List (Event κ)}
    (h : (machine notify).Possible (new sentinel what) events) :
    InStep ((machine notify).run (new sentinel what) events) := by
  have hinv := h.invariant (I := Inv) (fun _ e hw he => hw.step hn e he) (Inv.new sentinel what)
  exact hinv.inStep

/-- A connection is lost before its command is written, and one command is sent
before the next connection is opened. It is written with another one; the answer to
it arrives in two chunks, and its callback sends and commits a third one. -/
def pipelined : List (Event Nat) :=
  [.connect { host := ascii "localhost", port := 6379 } true,
    .call (.send [ascii "GET", ascii "k"] (some 0)), .drop,
    .call (.send [ascii "GET", ascii "k"] (some 1)),
    .connect { host := ascii "localhost", port := 6379 } true, .call (.select 1 (some 2)),
    .call .commit, .answer .nullBulk, .chunk 3 [],
    .chunk 2 [[.send [ascii "PING"] (some 3), .commit]]]

theorem inStep_run_pipelined : InStep ((machine silent).run (new {} "") pipelined) := by
  have hn : Reticent (silent : Notification → EStateM Fault (Client Nat) Unit) :=
    ⟨fun _ _ => rfl, fun _ _ _ => rfl⟩
  have hrun : (machine silent).Possible (new {} "") pipelined :=
    .intro trivial <| .intro trivial <| .intro ⟨by decide +kernel, by decide +kernel⟩ <|
      .intro trivial <| .intro trivial <| .intro trivial <| .intro trivial <|
      .intro ⟨by decide +kernel, trivial, by decide +kernel⟩ <|
      .intro ⟨by decide +kernel, by decide +kernel⟩ <|
      .intro ⟨by decide +kernel, by decide +kernel⟩ trivial
  exact inStep_run hn {} "" hrun

end World

end Client

end CppRedis
