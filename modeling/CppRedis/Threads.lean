import CppRedis.Alignment

/-!
# A failed commit of one of several threads

The send buffer and `m_commands` have a mutex each. `send` appends to both in one
step, and so does a commit that succeeds; but a commit that fails empties the buffer
in one step and the queue in another one (`clear_callbacks`), and other threads may
get in between.

* `commit_eq_steps`: without other threads the two steps are `commit`.
* `always_aligned_iff`: in a run of any number of threads the buffer and the queue
  agree whenever no thread is between its two steps, if and only if nothing was sent
  in between (`Settled`): a command sent there is dropped from the queue, and stays in
  the buffer.
-/

namespace CppRedis

open Text Procedure

namespace Client

variable {τ κ : Type} [DecidableEq τ]

/-! ## Steps -/

/-- A client, and the threads whose write has failed and that have not called
`clear_callbacks` yet. -/
structure Threads (τ κ : Type) where
  client : Client κ
  failing : List τ := []

namespace Threads

/-- The steps of a thread. A commit is `write`, followed by `clear` if it failed. -/
inductive Event (τ κ : Type)
  | send (thread : τ) (redisCmd : Command) (callback : Option κ)
  | write (thread : τ)
  | clear (thread : τ)

/-- A thread that is between the two steps of a commit can only take the second one. -/
def Enabled (s : Threads τ κ) : Event τ κ → Prop
  | .send thread _ _ => thread ∉ s.failing
  | .write thread => thread ∉ s.failing
  | .clear thread => thread ∈ s.failing

instance (s : Threads τ κ) : (e : Event τ κ) → Decidable (Enabled s e)
  | .send _ _ _ => inferInstanceAs (Decidable (_ ∉ _))
  | .write _ => inferInstanceAs (Decidable (_ ∉ _))
  | .clear _ => inferInstanceAs (Decidable (_ ∈ _))

/-- The first step of a commit. It does nothing while the client is reconnecting. -/
def write (thread : τ) (s : Threads τ κ) : Threads τ κ :=
  if s.client.reconnecting then s
  else
    match connection.zoom RedisConnection.commit s.client with
    | .ok _ c => { s with client := c }
    | .error _ c => { client := c, failing := thread :: s.failing }

/-- The second step of a commit that failed. -/
def clear (thread : τ) (s : Threads τ κ) : Threads τ κ :=
  { client := s.client.clearCallbacks, failing := s.failing.erase thread }

def step (s : Threads τ κ) : Event τ κ → Threads τ κ
  | .send _ redisCmd callback => { s with client := s.client.send redisCmd callback }
  | .write thread => s.write thread
  | .clear thread => s.clear thread

/-- A client and the steps of its threads, in any order. -/
def machine : Machine (Threads τ κ) (Event τ κ) :=
  ⟨Enabled, step⟩

instance (s : Threads τ κ) (e : Event τ κ) : Decidable (machine.enabled s e) :=
  inferInstanceAs (Decidable (Enabled s e))

/-- The commands written on the current connection and not answered, and then those in
the buffer, are those of the queue. `answered` of the commands written were answered. -/
def Aligned (answered : Nat) (c : Client κ) : Prop :=
  if c.isConnected then
    ∃ written ∈ decodeCommands c.client.client.written, ∃ buffered ∈ decodeCommands c.client.buffer,
      written.drop answered ++ buffered = commandsOf c.commands
  else decodeCommands c.client.buffer = some (commandsOf c.commands)

instance (answered : Nat) (c : Client κ) : Decidable (Aligned answered c) := by
  unfold Aligned
  infer_instance

/-- Where the last thread leaves the second step of its commit, nothing was sent since
the buffer was emptied. -/
def Settled (s : Threads τ κ) : Event τ κ → Prop
  | .clear thread => s.failing.erase thread = [] → s.client.client.buffer = []
  | _ => True

/-! ## What a step does -/

omit [DecidableEq τ] in
theorem write_open {s : Threads τ κ} (thread : τ) (hr : s.client.reconnecting = false)
    (hc : s.client.client.client.connected = true) :
    s.write thread = { s with client := connection.update RedisConnection.flush s.client } := by
  unfold write
  rw [hr, if_neg Bool.false_ne_true, connection.zoom_ok (RedisConnection.commit_connected hc)]
  rfl

omit [DecidableEq τ] in
theorem write_closed {s : Threads τ κ} (thread : τ) (hr : s.client.reconnecting = false)
    (hc : s.client.client.client.connected = false) :
    s.write thread = { client := s.client.discarded, failing := thread :: s.failing } := by
  unfold write
  rw [hr, if_neg Bool.false_ne_true, connection.zoom_error (RedisConnection.commit_disconnected hc)]
  rfl

/-- A thread that is not interrupted does in its two steps what `commit` does. -/
theorem commit_eq_steps (thread : τ) {c : Client κ} (hr : c.reconnecting = false) :
    let s := write thread ({ client := c } : Threads τ κ)
    after Client.commit c = (if thread ∈ s.failing then s.clear thread else s).client := by
  dsimp only
  cases hc : c.client.client.connected with
  | true =>
    rw [commit_open hr hc, write_open thread hr hc, if_neg List.not_mem_nil]
  | false =>
    rw [commit_closed hr hc, write_closed thread hr hc, if_pos List.mem_cons_self]
    rfl

/-! ## Invariants -/

variable {done : List (CommandRequest κ)}

/-- What all threads keep: on an open connection no commit fails, and the two stores
agree; on a closed one the buffer holds whole commands. -/
structure Inv (done : List (CommandRequest κ)) (s : Threads τ κ) : Prop where
  reconnecting : s.client.reconnecting = false
  link : (s.failing = [] ∧ ∃ base sent held, Queued s.client base sent held done) ∨
    s.client.client.client.connected = false ∧ ∃ held, s.client.client.buffer = encodeCommands held

theorem Inv.step {s : Threads τ κ} (h : Inv done s) (e : Event τ κ) (he : Enabled s e) :
    Inv done (s.step e) := by
  obtain ⟨hr, ⟨hnone, base, sent, held, hqueued⟩ | ⟨hc, held, hheld⟩⟩ := h
  · cases e with
    | send thread redisCmd callback =>
      exact ⟨hr, .inl ⟨hnone, _, _, _, hqueued.push ⟨redisCmd, callback.map .user⟩⟩⟩
    | write thread =>
      show Inv done (s.write thread)
      rw [write_open thread hr hqueued.connected]
      exact ⟨hr, .inl ⟨hnone, _, _, _, hqueued.flush⟩⟩
    | clear thread => exact absurd (hnone ▸ he : thread ∈ []) List.not_mem_nil
  · cases e with
    | send thread redisCmd callback =>
      refine ⟨hr, .inr ⟨hc, held ++ [redisCmd], ?_⟩⟩
      show s.client.client.buffer ++ buildCommand redisCmd = _
      rw [hheld, encodeCommands_append, encodeCommands_singleton]
    | write thread =>
      show Inv done (s.write thread)
      rw [write_closed thread hr hc]
      exact ⟨hr, .inr ⟨hc, [], rfl⟩⟩
    | clear thread =>
      obtain ⟨hcalm, -, -⟩ := clearCallbacks_calm s.client
      refine ⟨hcalm.reconnecting.trans hr, .inr ⟨hcalm.connected.trans hc, held, ?_⟩⟩
      show s.client.clearCallbacks.client.buffer = _
      rw [clearCallbacks_client]
      exact hheld

theorem aligned_of_queued {c : Client κ} {base : List (CommandRequest κ)} {sent held : List Command}
    (h : Queued c base sent held done) : Aligned done.length c := by
  unfold Aligned
  rw [if_pos (show c.isConnected = true from h.connected)]
  exact ⟨sent, h.decode_written, held, h.decode_buffer, h.sent_left⟩

theorem aligned_closed_iff {c : Client κ} {held : List Command} {answered : Nat}
    (hc : c.client.client.connected = false) (hheld : c.client.buffer = encodeCommands held) :
    Aligned answered c ↔ held = commandsOf c.commands := by
  have hclosed : c.isConnected = false := hc
  unfold Aligned
  rw [hclosed, if_neg Bool.false_ne_true, hheld, decodeCommands_encodeCommands]
  exact Option.some_inj

/-- A step keeps the two stores in agreement, between commits, if and only if it is settled. -/
theorem aligned_step_iff {s : Threads τ κ} (h : Inv done s)
    (hI : s.failing = [] → Aligned done.length s.client) (e : Event τ κ) (he : Enabled s e) :
    ((s.step e).failing = [] → Aligned done.length (s.step e).client) ↔ Settled s e := by
  have hnext := h.step e he
  obtain ⟨hr, ⟨hnone, base, sent, held, hqueued⟩ | ⟨hc, held, hheld⟩⟩ := h
  · -- an open connection: no thread can be between the two steps
    cases e with
    | send thread redisCmd callback =>
      refine ⟨fun _ => trivial, fun _ _ => ?_⟩
      exact aligned_of_queued (hqueued.push ⟨redisCmd, callback.map .user⟩)
    | write thread =>
      refine ⟨fun _ => trivial, fun _ _ => ?_⟩
      show Aligned done.length (s.write thread).client
      rw [write_open thread hr hqueued.connected]
      exact aligned_of_queued hqueued.flush
    | clear thread => exact absurd (hnone ▸ he : thread ∈ []) List.not_mem_nil
  · -- a closed one: the queue is what is held back, until a commit throws the buffer away
    cases e with
    | send thread redisCmd callback =>
      refine ⟨fun _ => trivial, fun _ hnone => ?_⟩
      have hqueue := (aligned_closed_iff hc hheld).mp (hI hnone)
      have hsent : (s.client.send redisCmd callback).client.buffer =
          encodeCommands (held ++ [redisCmd]) := by
        show s.client.client.buffer ++ buildCommand redisCmd = _
        rw [hheld, encodeCommands_append, encodeCommands_singleton]
      refine (aligned_closed_iff (c := s.client.send redisCmd callback) hc hsent).mpr ?_
      show _ = commandsOf (s.client.commands ++ [⟨redisCmd, callback.map .user⟩])
      rw [hqueue, commandsOf_append]
      rfl
    | write thread =>
      refine ⟨fun _ => trivial, fun _ hnone => ?_⟩
      have hfailing : (s.write thread).failing = [] := hnone
      rw [write_closed thread hr hc] at hfailing
      exact absurd hfailing (List.cons_ne_nil _ _)
    | clear thread =>
      obtain ⟨hcalm, hcommands, -⟩ := clearCallbacks_calm s.client
      have hbuffer : s.client.clearCallbacks.client.buffer = encodeCommands held := by
        rw [clearCallbacks_client]
        exact hheld
      have hiff : Aligned done.length s.client.clearCallbacks ↔ _ :=
        aligned_closed_iff (hcalm.connected.trans hc) hbuffer
      rw [hcommands] at hiff
      refine forall_congr' fun _ => hiff.trans ?_
      rw [hheld]
      refine ⟨fun hnil => hnil ▸ rfl, fun hnil => ?_⟩
      have hlength := length_le_encodeCommands held
      rw [hnil] at hlength
      exact List.eq_nil_of_length_eq_zero (Nat.le_zero.mp hlength)

/-! ## Runs -/

/-- Whenever no thread is between the two steps of a commit. -/
def AlignedBetween (answered : Nat) (s : Threads τ κ) : Prop :=
  s.failing = [] → Aligned answered s.client

instance (answered : Nat) : DecidablePred (AlignedBetween answered : Threads τ κ → Prop) :=
  fun s => inferInstanceAs (Decidable (s.failing = [] → Aligned answered s.client))

/-- Any number of threads send and commit on a client whose buffer and queue agree, in
any interleaving: they agree in every state in which no commit is between its two steps,
if and only if every step is settled. -/
theorem always_aligned_iff {c : Client κ} (hr : c.reconnecting = false)
    (hc : (done = [] ∧ Waiting c) ∨ ∃ base sent held, Queued c base sent held done)
    {events : List (Event τ κ)} (h : machine.Possible { client := c } events) :
    machine.Always (AlignedBetween done.length) { client := c } events ↔
      machine.Along Settled { client := c } events := by
  refine Machine.always_iff_along (K := Inv done) (fun s e hs he => hs.step e he)
    (fun s e hs hI he => aligned_step_iff hs hI e he) h ?_ ?_
  · rcases hc with ⟨-, hwaiting⟩ | hqueued
    · exact ⟨hr, .inr ⟨hwaiting.closed, _, hwaiting.buffer⟩⟩
    · exact ⟨hr, .inl ⟨rfl, hqueued⟩⟩
  · intro _
    rcases hc with ⟨-, hwaiting⟩ | ⟨base, sent, held, hqueued⟩
    · exact (aligned_closed_iff hwaiting.closed hwaiting.buffer).mpr rfl
    · exact aligned_of_queued hqueued

/-- Two threads send and commit on a client that is not connected; the second one
sends once the first one has cleared the queue. -/
def inTurn : List (Event Bool Nat) :=
  [.send true [ascii "GET", ascii "k"] (some 0), .write true, .clear true,
    .send false [ascii "GET", ascii "k"] (some 1), .write false, .clear false,
    .send true [ascii "PING"] none]

theorem always_aligned_iff_inTurn :
    machine.Always (AlignedBetween 0) ({ client := {} } : Threads Bool Nat) inTurn ↔
      machine.Along Settled ({ client := {} } : Threads Bool Nat) inTurn :=
  always_aligned_iff rfl (.inl ⟨rfl, rfl, rfl, List.nil_suffix⟩) (by decide +kernel)

/-- The second thread sends while the first one is between its two steps: what it has
sent stays in the buffer, and its entry is gone from the queue. -/
theorem not_always_aligned :
    ¬ ∀ events : List (Event Bool Nat), machine.Possible { client := {} } events →
      machine.Always (AlignedBetween 0) { client := {} } events := by
  intro h
  have hrun := h [.write true, .send false [ascii "INCR", ascii "n"] (some 0), .clear true]
    (by decide +kernel)
  exact absurd hrun (by decide +kernel)

end Threads

end Client

end CppRedis
