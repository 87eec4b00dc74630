import CppRedis.RoundTrip
import CppRedis.Connection
import CppRedis.Lib.Machine

/-!
# Commands on the wire

`build_command` and the parser of replies were written apart from each other, but an
array of bulk strings is a reply too, so what a connection writes can be read back with
a `reply_builder`. This module follows the commands that are sent through the buffer of
a connection and the buffers that its commits hand to `async_write`.

* `encode_ofCommand`: a command is written as a value of the reply format.
* `batched`: in every run, the commands sent are those of the buffers handed over, and
  then those in the buffer; none is split, lost or handed over twice. What was written are
  the buffers that were taken.
* `commands_decode`: read back, they are the commands sent.
-/

namespace CppRedis

open Text Procedure

/-! ## A command as a value -/

namespace Value

/-- An array of bulk strings. -/
def ofCommand (redisCmd : Command) : Value :=
  .array (redisCmd.map .bulkString)

theorem line_decimalInt (id : Byte) (n : Nat) :
    line id (decimalInt n) = [id] ++ decimal n ++ crlf := by
  have hn : decimalInt (n : Int) = decimal n := by
    unfold decimalInt
    rw [if_neg (by omega), Int.natAbs_natCast]
  unfold line
  rw [hn]
  rfl

theorem encode_bulkString (part : Bytes) : encode (.bulkString part) = buildPart part := by
  rw [encode, line_decimalInt, List.append_assoc]
  rfl

theorem encode_ofCommand (redisCmd : Command) : (ofCommand redisCmd).encode = buildCommand redisCmd := by
  have hparts : (redisCmd.map bulkString).map encode = redisCmd.map buildPart := by
    rw [List.map_map]
    exact List.map_congr_left fun part _ => encode_bulkString part
  unfold ofCommand
  rw [encode, line_decimalInt, List.length_map, encodeAll_eq_flatten, hparts]
  rfl

/-- The commands that a `std::vector` can hold and whose parts have a length that the
parser takes. -/
def Sendable (redisCmd : Command) : Prop :=
  redisCmd.length < 2 ^ 63 ∧ ∀ part ∈ redisCmd, part.length < 2 ^ 31 - 2

theorem wellFormed_ofCommand {redisCmd : Command} (h : Sendable redisCmd) :
    (ofCommand redisCmd).WellFormed := by
  unfold ofCommand
  rw [WellFormed, List.length_map]
  refine ⟨h.1, (allWellFormed_iff _).mpr fun r hr => ?_⟩
  obtain ⟨part, hpart, rfl⟩ := List.mem_map.mp hr
  exact h.2 part hpart

end Value

/-- The reply that a command reads as. -/
def Reply.ofCommand (redisCmd : Command) : Reply :=
  .ofRows (redisCmd.map fun part => .ofString part .bulkString)

theorem Value.toReply_ofCommand (redisCmd : Command) :
    (Value.ofCommand redisCmd).toReply = Reply.ofCommand redisCmd := by
  unfold Value.ofCommand Reply.ofCommand
  rw [Value.toReply, Value.toReplies_eq_map, List.map_map]
  exact congrArg Reply.ofRows (List.map_congr_left fun part _ => by
    show (Value.bulkString part).toReply = _
    rw [Value.toReply])

/-! ## Runs -/

/-- A connection, and how many buffers had been passed to `async_write` when it was opened. -/
structure Wire where
  connection : RedisConnection := {}
  opened : Nat := 0

namespace Wire

/-- A call, or a change of the connection that does not touch the buffer: it is lost,
or opened. -/
inductive Event
  | send (redisCmd : Command)
  | commit
  | lose
  | connect (host : Bytes) (port timeoutMsecs : Nat) (accepted : Bool)

def step (w : Wire) : Event → Wire
  | .send redisCmd => { w with connection := w.connection.send redisCmd }
  | .commit => { w with connection := after RedisConnection.commit w.connection }
  | .lose => { w with connection := w.connection.lose }
  | .connect host port timeoutMsecs accepted =>
    { connection := after (RedisConnection.connect host port true true timeoutMsecs accepted) w.connection
      opened :=
        if accepted && !w.connection.isConnected then w.connection.client.handed.length
        else w.opened }

def machine : Machine Wire Event :=
  ⟨fun _ _ => True, step⟩

/-- The commands passed to `send`, in order. -/
def sent (events : List Event) : List Command :=
  events.filterMap fun e =>
    match e with
    | .send redisCmd => some redisCmd
    | _ => none

/-- The buffers handed over to `async_write`, taken or not. -/
def handed (w : Wire) : List Bytes :=
  w.connection.client.handed.map Prod.fst

/-- Those that were taken on the current connection. -/
def taken (w : Wire) : List Bytes :=
  ((w.connection.client.handed.drop w.opened).filter Prod.snd).map Prod.fst

/-- The bytes handed over, and those in the buffer. -/
def bytes (w : Wire) : Bytes :=
  w.handed.flatten ++ w.connection.buffer

/-! ## Whole commands -/

/-- The commands sent so far, cut into those of each buffer handed over and those in
the buffer. -/
def Batched (w : Wire) (cmds : List Command) : Prop :=
  ∃ (batches : List (List Command)) (held : List Command), batches.flatten ++ held = cmds ∧
    w.handed = batches.map encodeCommands ∧ w.connection.buffer = encodeCommands held

/-- What was written to the current connection are the buffers that were taken on it. -/
structure Written (w : Wire) : Prop where
  opened : w.opened ≤ w.connection.client.handed.length
  written : w.connection.client.written = w.taken.flatten

theorem taken_flush {w : Wire} (h : w.opened ≤ w.connection.client.handed.length) :
    taken { w with connection := w.connection.flush } = w.taken ++ [w.connection.buffer] := by
  unfold taken
  dsimp only [RedisConnection.flush]
  rw [List.drop_append_of_le_length h, List.filter_append, List.map_append]
  rfl

theorem taken_discard {w : Wire} (h : w.opened ≤ w.connection.client.handed.length) :
    taken { w with connection := w.connection.discard } = w.taken := by
  unfold taken
  dsimp only [RedisConnection.discard]
  rw [List.drop_append_of_le_length h, List.filter_append, List.map_append]
  exact List.append_nil _

theorem Batched.commit {w : Wire} {cmds : List Command} (h : w.Batched cmds) :
    (w.step .commit).Batched cmds := by
  obtain ⟨batches, held, hcmds, hhanded, hbuffer⟩ := h
  refine ⟨batches ++ [held], [], ?_, ?_, ?_⟩
  · rw [List.flatten_append, List.flatten_singleton, List.append_nil, hcmds]
  · show (after RedisConnection.commit w.connection).client.handed.map Prod.fst = _
    have hnext : w.handed ++ [w.connection.buffer] = (batches ++ [held]).map encodeCommands := by
      rw [List.map_append, hhanded, hbuffer]
      rfl
    cases hc : w.connection.client.connected with
    | true =>
      rw [after_ok (RedisConnection.commit_connected hc), ← hnext]
      exact List.map_append
    | false =>
      rw [after_error (RedisConnection.commit_disconnected hc), ← hnext]
      exact List.map_append
  · show (after RedisConnection.commit w.connection).buffer = []
    cases hc : w.connection.client.connected with
    | true =>
      rw [after_ok (RedisConnection.commit_connected hc)]
      rfl
    | false =>
      rw [after_error (RedisConnection.commit_disconnected hc)]
      rfl

/-- A buffer that is taken is written behind those before; one that is not is gone. -/
theorem Written.commit {w : Wire} (h : w.Written) : (w.step .commit).Written := by
  cases hc : w.connection.client.connected with
  | true =>
    have hstep : w.step .commit = { w with connection := w.connection.flush } :=
      congrArg (fun c => { w with connection := c }) (after_ok (RedisConnection.commit_connected hc))
    rw [hstep]
    refine ⟨?_, ?_⟩
    · show _ ≤ (w.connection.client.handed ++ [(w.connection.buffer, true)]).length
      rw [List.length_append]
      exact h.opened.trans (Nat.le_add_right _ _)
    · rw [taken_flush h.opened, List.flatten_append, List.flatten_singleton, ← h.written]
      rfl
  | false =>
    have hstep : w.step .commit = { w with connection := w.connection.discard } :=
      congrArg (fun c => { w with connection := c })
        (after_error (RedisConnection.commit_disconnected hc))
    rw [hstep]
    refine ⟨?_, ?_⟩
    · show _ ≤ (w.connection.client.handed ++ [(w.connection.buffer, false)]).length
      rw [List.length_append]
      exact h.opened.trans (Nat.le_add_right _ _)
    · rw [taken_discard h.opened, ← h.written]
      rfl

/-- Opening a connection hands nothing over. A new one starts with nothing written. -/
theorem connect_step {w : Wire} {cmds : List Command} (h : w.Batched cmds) (hw : w.Written)
    (host : Bytes) (port timeoutMsecs : Nat) (accepted : Bool) :
    (w.step (.connect host port timeoutMsecs accepted)).Batched cmds ∧
      (w.step (.connect host port timeoutMsecs accepted)).Written := by
  by_cases hrefused : w.connection.client.connected = true ∨ accepted = false
  · have hstep : w.step (.connect host port timeoutMsecs accepted) =
        { w with connection := w.connection.refuse ⟨host, port % 2 ^ 32, timeoutMsecs⟩ } := by
      have hnot : (accepted && !w.connection.isConnected) = false := by
        rcases hrefused with hc | rfl
        · rw [RedisConnection.isConnected, hc]
          exact Bool.and_false _
        · rfl
      unfold step
      dsimp only
      rw [hnot, after_error (RedisConnection.connect_refused host port true true timeoutMsecs hrefused)]
      rfl
    rw [hstep]
    exact ⟨h, hw.opened, hw.written⟩
  · rw [not_or, Bool.not_eq_true, Bool.not_eq_false] at hrefused
    obtain ⟨hc, rfl⟩ := hrefused
    have hstep : w.step (.connect host port timeoutMsecs true) =
        { connection := w.connection.accept ⟨host, port % 2 ^ 32, timeoutMsecs⟩ true true
          opened := w.connection.client.handed.length } := by
      have hopen : (true && !w.connection.isConnected) = true := by
        rw [RedisConnection.isConnected, hc]
        rfl
      unfold step
      dsimp only
      rw [hopen, after_ok (RedisConnection.connect_accepted host port true true timeoutMsecs hc)]
      rfl
    rw [hstep]
    refine ⟨h, Nat.le_refl _, ?_⟩
    unfold Wire.taken
    dsimp only [RedisConnection.accept]
    rw [List.drop_length]
    rfl

theorem step_kept {w : Wire} {cmds : List Command} (h : w.Batched cmds) (hw : w.Written) (e : Event) :
    (w.step e).Batched (cmds ++ sent [e]) ∧ (w.step e).Written := by
  have hnone : cmds ++ [] = cmds := List.append_nil cmds
  cases e with
  | send redisCmd =>
    obtain ⟨batches, held, hcmds, hhanded, hbuffer⟩ := h
    refine ⟨⟨batches, held ++ [redisCmd], ?_, hhanded, ?_⟩, hw.opened, hw.written⟩
    · rw [← List.append_assoc, hcmds]
      rfl
    · show w.connection.buffer ++ buildCommand redisCmd = _
      rw [hbuffer, encodeCommands_append, encodeCommands_singleton]
  | commit => exact ⟨hnone.symm ▸ h.commit, hw.commit⟩
  | lose => exact ⟨hnone.symm ▸ h, hw.opened, hw.written⟩
  | connect host port timeoutMsecs accepted =>
    obtain ⟨hbatched, hwritten⟩ := connect_step h hw host port timeoutMsecs accepted
    exact ⟨hnone.symm ▸ hbatched, hwritten⟩

/-- In every state of every run. By induction on the events. -/
theorem batched (events : List Event) (w : Wire) (cmds : List Command) (h : w.Batched cmds)
    (hw : w.Written) :
    (machine.run w events).Batched (cmds ++ sent events) ∧ (machine.run w events).Written := by
  induction events generalizing w cmds with
  | nil =>
    rw [show sent [] = [] from rfl, List.append_nil]
    exact ⟨h, hw⟩
  | cons e events ih =>
    obtain ⟨hbatched, hwritten⟩ := step_kept h hw e
    have hrun := ih (w.step e) (cmds ++ sent [e]) hbatched hwritten
    have hsent : sent (e :: events) = sent [e] ++ sent events :=
      List.filterMap_append (l := [e])
    rw [hsent, ← List.append_assoc]
    exact hrun

theorem encodeCommands_flatten (batches : List (List Command)) :
    encodeCommands batches.flatten = (batches.map encodeCommands).flatten := by
  induction batches with
  | nil => rfl
  | cons cmds batches ih =>
    rw [List.map_cons, List.flatten_cons, List.flatten_cons, ← ih, encodeCommands_append]

/-- The bytes of commands are those of arrays of bulk strings. -/
theorem encodeCommands_eq_values (cmds : List Command) :
    encodeCommands cmds = ((cmds.map Value.ofCommand).map Value.encode).flatten := by
  unfold encodeCommands
  rw [List.map_map]
  exact congrArg List.flatten
    (List.map_congr_left fun redisCmd _ => (Value.encode_ofCommand redisCmd).symm)

/-- The commands that were sent survive the wire: whatever commits were made in between,
successful or not, every buffer that was handed over to `async_write` and the one that is
left consist of whole commands, which together are the commands sent, in order; what was
written to the connection are the buffers that were taken on it; and fed to a new
`reply_builder`, in any chunks, they are all read without a fault as one array of bulk
strings for each command. -/
theorem commands_decode (what : String) (events : List Event)
    (h : ∀ redisCmd ∈ sent events, Value.Sendable redisCmd) :
    let w := machine.run { connection := { client := { what := what } } } events
    (∃ (batches : List (List Command)) (held : List Command),
      batches.flatten ++ held = sent events ∧
      w.handed = batches.map encodeCommands ∧
      w.connection.buffer = encodeCommands held) ∧
    w.connection.client.written = w.taken.flatten ∧
    ∀ chunks : List Bytes, chunks.flatten = w.bytes →
      ReplyBuilder.feedAll {} chunks =
        ({ builder := none
           availableReplies := (sent events).map Reply.ofCommand
           buffer := [] }, .ok ()) := by
  dsimp only
  obtain ⟨hbatched, hwritten⟩ := batched events { connection := { client := { what := what } } } []
    ⟨[], [], rfl, rfl, rfl⟩ ⟨Nat.le_refl 0, rfl⟩
  rw [List.nil_append] at hbatched
  refine ⟨hbatched, hwritten.written, fun chunks hchunks => ?_⟩
  obtain ⟨batches, held, hsent, hhanded, hbuffer⟩ := hbatched
  -- what was handed over and what is left are the bytes of the commands sent, whole and in order
  have hchunks : chunks.flatten = (((sent events).map Value.ofCommand).map Value.encode).flatten := by
    rw [hchunks, ← encodeCommands_eq_values, ← hsent, encodeCommands_append]
    unfold bytes
    rw [hhanded, ← encodeCommands_flatten, hbuffer]
  have hwellFormed : ∀ r ∈ (sent events).map Value.ofCommand, r.WellFormed := by
    intro r hr
    obtain ⟨redisCmd, hmem, rfl⟩ := List.mem_map.mp hr
    exact Value.wellFormed_ofCommand (h redisCmd hmem)
  rw [ReplyBuilder.feedAll_encodeAll hwellFormed hchunks, List.map_map]
  exact congrArg (fun replies => (({ builder := none, availableReplies := replies, buffer := [] } :
    ReplyBuilder), (Except.ok () : Except Fault Unit)))
      (List.map_congr_left fun redisCmd _ => Value.toReply_ofCommand redisCmd)

/-- Commands with an empty part and with a part that looks like one, and a commit that
fails between two that do not. -/
def exchanged : List Event :=
  [.send [ascii "SET", ascii "k", []], .connect (ascii "localhost") 6379 0 true, .commit,
    .send [ascii "ECHO", ascii "*1\r\n$4\r\nPING\r\n"], .lose, .commit, .send [],
    .connect (ascii "localhost") 6379 0 true, .commit, .send [ascii "PING"]]

theorem commands_decode_exchanged :
    ReplyBuilder.feedAll {} [(machine.run {} exchanged).bytes] =
      ({ builder := none
         availableReplies := (sent exchanged).map Reply.ofCommand
         buffer := [] }, .ok ()) := by
  have hsendable : ∀ redisCmd ∈ sent exchanged, Value.Sendable redisCmd := by
    unfold Value.Sendable
    decide
  exact (commands_decode "" exchanged hsendable).2.2 [_] (List.append_nil _)

end Wire

end CppRedis
