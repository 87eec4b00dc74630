import CppRedis.Alignment
import CppRedis.Sentinel

/-!
# Callbacks that a disconnect leaves behind

A sentinel keeps its send buffer and `m_callbacks` in step on every path but one: a lost
connection and a failed commit empty both, and `disconnect` empties the buffer only. So a
callback that is queued when `disconnect` is called, by the user or by the loop of
`connect_sentinel`, stays in front of those of the next connection.

* `Queued`, `Waiting`: the buffer and the queue on an open and on a closed connection.
  `receive_chunk` is a chunk, with callbacks that send and commit.
* `connect_dialled`, `connectSentinel_dialled`: what connecting does to both.
* `always_inStep_iff`: in every state of a run the sentinel is in step with the connection
  if and only if `disconnect` is only ever called with `m_callbacks` empty.
-/

namespace CppRedis

open Text Procedure

namespace SentinelClient

variable {κ : Type}

/-! ## Calls -/

/-- A call that adds to the pipeline or commits it. -/
inductive Call (κ : Type)
  | send (redisCmd : Command) (callback : Option κ)
  | commit

def Call.run (s : SentinelClient κ) : Call κ → SentinelClient κ
  | .send redisCmd callback => s.send redisCmd callback
  | .commit => after SentinelClient.commit s

def runCalls (calls : List (Call κ)) (s : SentinelClient κ) : SentinelClient κ :=
  calls.foldl Call.run s

/-- A callback that makes some calls. -/
def calling (calls : List (Call κ)) : EStateM Fault (SentinelClient κ) Unit :=
  modify (runCalls calls)

/-- The commands of a list of entries. -/
def commandsOf (requests : List (SentinelRequest κ)) : List Command :=
  requests.map SentinelRequest.command

theorem commandsOf_append (rs rs' : List (SentinelRequest κ)) :
    commandsOf (rs ++ rs') = commandsOf rs ++ commandsOf rs' :=
  List.map_append

theorem commit_open {s : SentinelClient κ} (hc : s.client.client.connected = true) :
    after commit s = connection.update RedisConnection.flush s :=
  after_ok (catch_ok (connection.zoom_ok (RedisConnection.commit_connected hc)) _)

/-- A commit that fails empties both. -/
theorem commit_closed {s : SentinelClient κ} (hc : s.client.client.connected = false) :
    after commit s = { s with client := s.client.discard, callbacks := [] } := by
  have hcommit := connection.zoom_error (s := s) (RedisConnection.commit_disconnected hc)
  exact after_error ((catch_error hcommit _).trans rfl)

/-- What a call of the pipeline leaves alone. -/
structure Calm (s s' : SentinelClient κ) : Prop where
  connected : s'.client.client.connected = s.client.client.connected
  builder : s'.client.builder = s.client.builder
  replyCallback : s'.client.replyCallback = s.client.replyCallback
  disconnectionHandler : s'.client.disconnectionHandler = s.client.disconnectionHandler
  handled : s'.handled = s.handled
  invoked : s'.invoked = s.invoked

theorem Calm.refl (s : SentinelClient κ) : Calm s s :=
  ⟨rfl, rfl, rfl, rfl, rfl, rfl⟩

theorem Calm.trans {s₁ s₂ s₃ : SentinelClient κ} (h : Calm s₁ s₂) (h' : Calm s₂ s₃) : Calm s₁ s₃ :=
  ⟨h'.connected.trans h.connected, h'.builder.trans h.builder,
    h'.replyCallback.trans h.replyCallback, h'.disconnectionHandler.trans h.disconnectionHandler,
    h'.handled.trans h.handled, h'.invoked.trans h.invoked⟩

theorem Call.calm (s : SentinelClient κ) (call : Call κ) : Calm s (call.run s) := by
  cases call with
  | send redisCmd callback => exact ⟨rfl, rfl, rfl, rfl, rfl, rfl⟩
  | commit =>
    show Calm s (after SentinelClient.commit s)
    cases hc : s.client.client.connected with
    | true =>
      rw [commit_open hc]
      exact ⟨rfl, rfl, rfl, rfl, rfl, rfl⟩
    | false =>
      rw [commit_closed hc]
      exact ⟨rfl, rfl, rfl, rfl, rfl, rfl⟩

theorem runCalls_calm (calls : List (Call κ)) (s : SentinelClient κ) : Calm s (s.runCalls calls) := by
  induction calls generalizing s with
  | nil => exact .refl s
  | cons call calls ih => exact (call.calm s).trans (ih _)

/-! ## The two stores -/

/-- A connected sentinel: the commands `sent` on the connection and those `held` in the
buffer are those of the entries `done`, which were answered on it, and of the queue. These
entries are the last ones that were pushed. -/
structure Queued (s : SentinelClient κ) (sent held : List Command) (done : List (SentinelRequest κ)) :
    Prop where
  connected : s.client.client.connected = true
  written : s.client.client.written = encodeCommands sent
  buffer : s.client.buffer = encodeCommands held
  commands : sent ++ held = commandsOf (done ++ s.callbacks)
  issued : done ++ s.callbacks <:+ s.pushed
  answered : done.length ≤ sent.length

/-- A sentinel that is not connected: the buffer and the queue agree. -/
structure Waiting (s : SentinelClient κ) : Prop where
  closed : s.client.client.connected = false
  buffer : s.client.buffer = encodeCommands (commandsOf s.callbacks)
  issued : s.callbacks <:+ s.pushed

section Stores

variable {s : SentinelClient κ} {sent held : List Command} {done : List (SentinelRequest κ)}

/-- A call on a connected sentinel sends more commands or none. -/
theorem Queued.call (h : Queued s sent held done) (call : Call κ) :
    ∃ more held', Queued (call.run s) (sent ++ more) held' done := by
  cases call with
  | send redisCmd callback =>
    refine ⟨[], held ++ [redisCmd], ?_⟩
    rw [List.append_nil]
    refine ⟨h.connected, h.written, ?_, ?_, ?_, h.answered⟩
    · show s.client.buffer ++ buildCommand redisCmd = _
      rw [h.buffer, encodeCommands_append, encodeCommands_singleton]
    · show _ = commandsOf (done ++ (s.callbacks ++ [⟨redisCmd, callback⟩]))
      rw [← List.append_assoc, ← List.append_assoc, h.commands, commandsOf_append _ [_]]
      rfl
    · show done ++ (s.callbacks ++ [⟨redisCmd, callback⟩]) <:+ s.pushed ++ [⟨redisCmd, callback⟩]
      rw [← List.append_assoc]
      exact Client.append_suffix h.issued _
  | commit =>
    refine ⟨held, [], ?_⟩
    show Queued (after SentinelClient.commit s) _ _ _
    rw [commit_open h.connected]
    refine ⟨h.connected, ?_, rfl, ?_, h.issued, ?_⟩
    · show s.client.client.written ++ s.client.buffer = _
      rw [h.written, h.buffer, encodeCommands_append]
    · rw [List.append_nil]
      exact h.commands
    · exact h.answered.trans (List.length_append ▸ Nat.le_add_right _ _)

theorem Queued.calls (h : Queued s sent held done) (calls : List (Call κ)) :
    ∃ more held', Queued (s.runCalls calls) (sent ++ more) held' done := by
  induction calls generalizing s sent held with
  | nil => exact ⟨[], held, (List.append_nil sent).symm ▸ h⟩
  | cons call calls ih =>
    obtain ⟨more, held', hcall⟩ := h.call call
    obtain ⟨more', held'', hcalls⟩ := ih hcall
    exact ⟨more ++ more', held'', List.append_assoc sent more more' ▸ hcalls⟩

/-- Calls on a closed connection keep the buffer and the queue equal; a commit empties both. -/
theorem Waiting.call (h : Waiting s) (call : Call κ) : Waiting (call.run s) := by
  cases call with
  | send redisCmd callback =>
    refine ⟨h.closed, ?_, Client.append_suffix h.issued _⟩
    show s.client.buffer ++ buildCommand redisCmd =
      encodeCommands (commandsOf (s.callbacks ++ [⟨redisCmd, callback⟩]))
    rw [h.buffer, commandsOf_append, encodeCommands_append]
    exact congrArg _ (encodeCommands_singleton redisCmd).symm
  | commit =>
    show Waiting (after SentinelClient.commit s)
    rw [commit_closed h.closed]
    exact ⟨h.closed, rfl, List.nil_suffix⟩

theorem Waiting.calls (h : Waiting s) (calls : List (Call κ)) : Waiting (s.runCalls calls) := by
  induction calls generalizing s with
  | nil => exact h
  | cons call calls ih => exact ih (h.call call)

/-- A reply takes the first entry out of the queue, and is given to the callback of it. -/
theorem Queued.answerFront (h : Queued s sent held done) (hdone : done.length < sent.length)
    (reply : Reply) :
    ∃ request, (s.answerFront reply).handled = s.handled ++ [(request, reply)] ∧
      (s.answerFront reply).invoked = s.invoked ++ (callOf (request, reply)).toList ∧
      Queued (s.answerFront reply) sent held (done ++ [request]) := by
  have hlength := congrArg List.length h.commands
  unfold commandsOf at hlength
  rw [List.length_append, List.length_map, List.length_append] at hlength
  obtain ⟨request, rest, hcallbacks⟩ :=
    List.exists_cons_of_length_pos (l := s.callbacks) (by omega)
  have hpopped : (s.answerFront reply).callbacks = rest := congrArg List.tail hcallbacks
  have hentries : done ++ s.callbacks = done ++ [request] ++ (s.answerFront reply).callbacks := by
    rw [hpopped, hcallbacks, List.append_assoc]
    rfl
  refine ⟨request, ?_, ?_, h.connected, h.written, h.buffer, hentries ▸ h.commands,
    hentries ▸ h.issued, ?_⟩
  · show s.handled ++ _ = _
    rw [hcallbacks]
    rfl
  · show s.invoked ++ _ = _
    rw [hcallbacks]
    rfl
  · rw [List.length_append]
    exact hdone

end Stores

/-! ## Replies -/

/-- A callback that is called makes its calls; a null one makes none. -/
theorem invoke_calling (callback : Option κ) (input : Option (List (Call κ))) (reply : Reply)
    (s : SentinelClient κ) :
    ∃ calls, invoke callback reply ((input.map calling).getD (pure ())) s =
      .ok () ((s.record callback reply).runCalls calls) := by
  unfold invoke
  rw [modify_bind]
  cases callback with
  | none => exact ⟨[], rfl⟩
  | some callback =>
    cases input with
    | none => exact ⟨[], rfl⟩
    | some calls => exact ⟨calls, rfl⟩

theorem connectionReceiveHandler_calling (input : Option (List (Call κ))) (reply : Reply)
    (s : SentinelClient κ) :
    ∃ calls, connectionReceiveHandler (input.map calling) reply s =
      .ok () ((s.answerFront reply).runCalls calls).countDown := by
  obtain ⟨calls, hinvoke⟩ := invoke_calling (s.callbacks.head?.bind SentinelRequest.callback) input
    reply (s.popCallback reply)
  exact ⟨calls, (bind_ok hinvoke _).trans rfl⟩

/-- While the replies of a chunk are delivered to `s`: the replies `rest` are left, and the
others were handed to the next entries, in their order, and given to their callbacks. -/
structure Delivering (s : SentinelClient κ) (b : ReplyBuilder) (replies : List Reply)
    (sent : List Command) (done : List (SentinelRequest κ)) (rest : List Reply)
    (t : SentinelClient κ) : Prop where
  builder : t.client.builder = b.prepend rest
  replyCallback : t.client.replyCallback = true
  disconnectionHandler : t.client.disconnectionHandler = s.client.disconnectionHandler
  handed : ∃ entries more held, entries.map Prod.snd ++ rest = replies ∧
    t.handled = s.handled ++ entries ∧ t.invoked = s.invoked ++ entries.filterMap callOf ∧
    Queued t (sent ++ more) held (done ++ entries.map Prod.fst)

section Replies

variable {s t : SentinelClient κ} {b : ReplyBuilder} {replies rest : List Reply}
  {sent held : List Command} {done : List (SentinelRequest κ)}

/-- One more reply is delivered. -/
theorem Delivering.turn {reply : Reply}
    (hdone : done.length + replies.length ≤ sent.length) (hnone : b.availableReplies = [])
    (h : Delivering s b replies sent done (reply :: rest) t) (input : Option (List (Call κ))) :
    ∃ t', connectionReceiveHandler (input.map calling) reply
        (connection.update (RedisConnection.popReply rest) t) = .ok () t' ∧
      Delivering s b replies sent done rest t' := by
  obtain ⟨entries, more, held, hreplies, hhandled, hinvoked, hqueued⟩ := h.handed
  have hbuilder : (RedisConnection.popReply rest t.client).builder = b.prepend rest :=
    RedisConnection.popReply_builder hnone h.builder
  have hpopped : Queued (connection.update (RedisConnection.popReply rest) t) (sent ++ more) held
      (done ++ entries.map Prod.fst) :=
    ⟨hqueued.connected, hqueued.written, hqueued.buffer, hqueued.commands, hqueued.issued,
      hqueued.answered⟩
  have hlt : (done ++ entries.map Prod.fst).length < (sent ++ more).length := by
    have := congrArg List.length hreplies
    rw [List.length_append, List.length_map, List.length_cons] at this
    rw [List.length_append, List.length_append, List.length_map]
    omega
  obtain ⟨request, hpair, hgiven, hnext⟩ := hpopped.answerFront hlt reply
  obtain ⟨calls, hreceive⟩ := connectionReceiveHandler_calling input reply
    (connection.update (RedisConnection.popReply rest) t)
  obtain ⟨more', held', hcalls⟩ := hnext.calls calls
  have hcalm := runCalls_calm calls
    ((connection.update (RedisConnection.popReply rest) t).answerFront reply)
  refine ⟨_, hreceive, hcalm.builder.trans hbuilder, hcalm.replyCallback.trans h.replyCallback,
    hcalm.disconnectionHandler.trans h.disconnectionHandler,
    entries ++ [(request, reply)], more ++ more', held', ?_, ?_, ?_, ?_⟩
  · rw [← hreplies, List.map_append, List.append_assoc]
    rfl
  · exact (hcalm.handled.trans hpair).trans (by rw [← List.append_assoc, ← hhandled]; rfl)
  · rw [List.filterMap_append, filterMap_singleton, ← List.append_assoc, ← hinvoked]
    exact hcalm.invoked.trans hgiven
  · rw [← List.append_assoc, List.map_append, ← List.append_assoc]
    exact ⟨hcalls.connected, hcalls.written, hcalls.buffer, hcalls.commands, hcalls.issued,
      hcalls.answered⟩

/-- A chunk that arrives in whole: the replies that it completes are handed to the next
entries, and the connection is read again. -/
theorem receive_chunk {data : Bytes} (callbacks : List (List (Call κ)))
    (user : EStateM Fault (SentinelClient κ) Unit) (h : Queued s sent held done)
    (hset : s.client.replyCallback = true) (hnone : b.availableReplies = [])
    (hfeed : s.client.builder.feed data = (b.prepend replies, .ok ()))
    (hdone : done.length + replies.length ≤ sent.length) :
    Delivering s b replies sent done []
      (after (receive (some data) (callbacks.map calling) user) s) := by
  have havailable := b.availableReplies_prepend hnone
  have hstart : Delivering s b replies sent done (b.prepend replies).availableReplies
      (connection.set { s.client with builder := b.prepend replies } s) := by
    refine ⟨congrArg b.prepend (havailable replies).symm, hset, rfl, [], [], held, havailable replies,
      (List.append_nil _).symm, (List.append_nil _).symm, ?_⟩
    rw [List.append_nil, List.map_nil, List.append_nil]
    exact ⟨h.connected, h.written, h.buffer, h.commands, h.issued, h.answered⟩
  have hbuilder {rest : List Reply} {t : SentinelClient κ}
      (ht : Delivering s b replies sent done rest t) :
      t.client.builder.availableReplies = rest ∧ t.client.replyCallback = true := by
    rw [ht.builder]
    exact ⟨havailable rest, ht.replyCallback⟩
  have hopen {t : SentinelClient κ} (ht : Delivering s b replies sent done [] t) :
      t.client.client.connected = true := by
    obtain ⟨entries, more, held', -, -, -, hqueued⟩ := ht.handed
    exact hqueued.connected
  obtain ⟨t, hend, hreceive⟩ := RedisConnection.receive_ok (P := Delivering s b replies sent done)
    hbuilder (fun input ht => ht.turn hdone hnone input) hopen (connectionDisconnectHandler user)
    callbacks hfeed hstart
  obtain ⟨entries, more, held', hreplies, hhandled, hinvoked, hqueued⟩ := hend.handed
  unfold receive
  rw [hreceive]
  exact ⟨hend.builder, hend.replyCallback, hend.disconnectionHandler, entries, more, held', hreplies,
    hhandled, hinvoked, hqueued.connected, hqueued.written, hqueued.buffer, hqueued.commands,
    hqueued.issued, hqueued.answered⟩

end Replies

/-! ## Connecting and disconnecting -/

/-- What `connect` does: the link is left as it is, or a closed one is opened. -/
structure Dialled (s s' : SentinelClient κ) : Prop where
  callbacks : s'.callbacks = s.callbacks
  pushed : s'.pushed = s.pushed
  handled : s'.handled = s.handled
  invoked : s'.invoked = s.invoked
  link : s'.client = s.client ∨ (∃ endpoint, s'.client = s.client.refuse endpoint) ∨
    s.client.client.connected = false ∧ ∃ endpoint, s'.client = s.client.accept endpoint true true

/-- `disconnect` was called, and then perhaps a connection was opened: the buffer is empty,
and the queue is as it was. -/
structure Emptied (s s' : SentinelClient κ) : Prop where
  callbacks : s'.callbacks = s.callbacks
  pushed : s'.pushed = s.pushed
  builder : s'.client.builder = s.client.builder.reset
  buffer : s'.client.buffer = []
  link : s'.client.client.connected = true → s'.client.client.written = [] ∧
    s'.client.replyCallback = true ∧ s'.client.disconnectionHandler = true

theorem disconnect_emptied (s : SentinelClient κ) : Emptied s s.disconnect :=
  ⟨rfl, rfl, rfl, rfl, fun hc => absurd hc Bool.false_ne_true⟩

theorem connect_dialled (host : Bytes) (port : Nat) (disconnectHandler : Bool) (timeoutMsecs : Nat)
    (accepted : Bool) (s : SentinelClient κ) :
    Dialled s (after (connect host port disconnectHandler timeoutMsecs accepted) s) := by
  unfold connect
  by_cases hrefused : s.client.client.connected = true ∨ accepted = false
  · rw [after_bind_error (connection.zoom_error (s := s) (RedisConnection.connect_refused host port
      true true timeoutMsecs hrefused))]
    exact ⟨rfl, rfl, rfl, rfl, .inr (.inl ⟨_, rfl⟩)⟩
  · rw [not_or, Bool.not_eq_true, Bool.not_eq_false] at hrefused
    obtain ⟨hc, rfl⟩ := hrefused
    rw [after_bind_ok (connection.zoom_ok (s := s) (RedisConnection.connect_accepted host port true
      true timeoutMsecs hc))]
    exact ⟨rfl, rfl, rfl, rfl, .inr (.inr ⟨hc, _, rfl⟩)⟩

/-- Where a sentinel is dialled. -/
def endpointOf (it : SentinelDef) : Endpoint :=
  ⟨it.host, it.port % 2 ^ 32, it.timeoutMsecs⟩

section Hosts

variable {s t : SentinelClient κ} {it : SentinelDef} {sentinels : List SentinelDef}
  {reachable : List Bool}

/-- A turn of the loop, once the connection attempt was made. -/
theorem trySentinels_refused
    (h : s.client.client.connected = true ∨ reachable.head?.getD false = false) :
    trySentinels (it :: sentinels) reachable s =
      if s.client.client.connected then
        .ok false (connection.update (fun r => r.refuse (endpointOf it)) s)
      else trySentinels sentinels reachable.tail
        (connection.update (fun r => r.refuse (endpointOf it)) s).disconnect := by
  have hrefuse := connection.zoom_error (s := s) (RedisConnection.connect_refused it.host it.port true
    true it.timeoutMsecs h)
  rw [trySentinels]
  refine (bind_ok (Eq.trans (catch_error hrefuse _) rfl) _).trans ?_
  rw [get_bind]
  cases hc : s.client.client.connected with
  | true =>
    rw [if_pos rfl]
    exact congrFun (if_pos hc) _
  | false =>
    rw [if_neg Bool.false_ne_true]
    exact congrFun (if_neg (Bool.eq_false_iff.mp hc)) _

theorem trySentinels_accepted (hc : s.client.client.connected = false)
    (h : reachable.head?.getD false = true) :
    trySentinels (it :: sentinels) reachable s =
      .ok false (connection.update (fun r => r.accept (endpointOf it) true true) s) := by
  have haccept := connection.zoom_ok (s := s) (RedisConnection.connect_accepted it.host it.port true
    true it.timeoutMsecs hc)
  rw [trySentinels, h]
  exact (bind_ok (catch_ok haccept _) _).trans rfl

/-- The rest of the loop once `disconnect` was called on `s`. By induction on the sentinels:
each one that refuses has `disconnect` called again. -/
theorem trySentinels_emptied (h : Emptied s t) (hc : t.client.client.connected = false) :
    ∃ b t', trySentinels sentinels reachable t = .ok b t' ∧ Emptied s t' := by
  induction sentinels generalizing t reachable with
  | nil => exact ⟨true, t, rfl, h⟩
  | cons it sentinels ih =>
    cases hreach : reachable.head?.getD false with
    | true => exact ⟨_, _, trySentinels_accepted hc hreach, h.callbacks, h.pushed, h.builder, h.buffer,
        fun _ => ⟨rfl, rfl, rfl⟩⟩
    | false =>
      rw [trySentinels_refused (.inr hreach), hc, if_neg Bool.false_ne_true]
      refine ih ⟨h.callbacks, h.pushed, ?_, rfl, fun hc' => absurd hc' Bool.false_ne_true⟩ rfl
      show t.client.builder.reset = _
      rw [h.builder]
      rfl

/-- The first sentinel is dialled and refuses, so that the loop calls `disconnect`. -/
def Retries (s : SentinelClient κ) (reachable : List Bool) : Prop :=
  s.client.isConnected = false ∧ s.sentinels ≠ [] ∧ reachable.head?.getD false = false

instance (s : SentinelClient κ) (reachable : List Bool) : Decidable (s.Retries reachable) :=
  inferInstanceAs (Decidable (_ ∧ _ ∧ _))

/-- `connect_sentinel` ends with what its loop left behind. -/
theorem after_connectSentinel {b : Bool} (disconnectHandler : Bool) (hs : s.sentinels ≠ [])
    (h : trySentinels s.sentinels reachable s = .ok b t) :
    ∃ d, after (connectSentinel disconnectHandler reachable) s = { t with disconnectHandler := d } := by
  have hsome : s.sentinels.isEmpty = false :=
    Bool.eq_false_iff.mpr fun h => hs (List.isEmpty_iff.mp h)
  unfold connectSentinel
  rw [after_get_bind, hsome, if_neg Bool.false_ne_true, after_get_bind, after_bind_ok h]
  cases b with
  | true => exact ⟨t.disconnectHandler, rfl⟩
  | false => exact ⟨disconnectHandler, rfl⟩

/-- `connect_sentinel`, however it is left. -/
theorem connectSentinel_cases (disconnectHandler : Bool) (reachable : List Bool)
    (s : SentinelClient κ) :
    let s' := after (connectSentinel disconnectHandler reachable) s
    s.Retries reachable ∧ Emptied s s' ∨ ¬ s.Retries reachable ∧ Dialled s s' := by
  cases hsentinels : s.sentinels with
  | nil =>
    have hthrown : after (connectSentinel disconnectHandler reachable) s = s := by
      unfold connectSentinel
      rw [after_get_bind, hsentinels]
      rfl
    rw [hthrown]
    exact .inr ⟨fun h => h.2.1 hsentinels, rfl, rfl, rfl, rfl, .inl rfl⟩
  | cons it sentinels =>
    have hsome : s.sentinels ≠ [] := hsentinels ▸ List.cons_ne_nil it sentinels
    have htry {b : Bool} {t : SentinelClient κ}
        (h : trySentinels (it :: sentinels) reachable s = .ok b t) :
        ∃ d, after (connectSentinel disconnectHandler reachable) s = { t with disconnectHandler := d } :=
      after_connectSentinel disconnectHandler hsome (hsentinels ▸ h)
    cases hc : s.client.client.connected with
    | true =>
      have hrefused : trySentinels (it :: sentinels) reachable s = _ := trySentinels_refused (.inl hc)
      rw [hc, if_pos rfl] at hrefused
      obtain ⟨d, hafter⟩ := htry hrefused
      rw [hafter]
      exact .inr ⟨fun h => absurd (h.1.symm.trans hc) Bool.false_ne_true, rfl, rfl, rfl, rfl,
        .inr (.inl ⟨_, rfl⟩)⟩
    | false =>
      cases hreach : reachable.head?.getD false with
      | true =>
        obtain ⟨d, hafter⟩ := htry (trySentinels_accepted hc hreach)
        rw [hafter]
        exact .inr ⟨fun h => absurd (h.2.2.symm.trans hreach) Bool.false_ne_true, rfl, rfl, rfl, rfl,
          .inr (.inr ⟨hc, _, rfl⟩)⟩
      | false =>
        have hemptied := disconnect_emptied (connection.update (fun r => r.refuse (endpointOf it)) s)
        obtain ⟨b, t, hrest, ht⟩ : ∃ b t, trySentinels sentinels reachable.tail _ = .ok b t ∧
          Emptied _ t := trySentinels_emptied hemptied rfl
        have hrefused : trySentinels (it :: sentinels) reachable s = _ :=
          trySentinels_refused (.inr hreach)
        rw [hc, if_neg Bool.false_ne_true, hrest] at hrefused
        obtain ⟨d, hafter⟩ := htry hrefused
        rw [hafter]
        exact .inl ⟨⟨hc, hsome, hreach⟩, ht.callbacks, ht.pushed, ht.builder, ht.buffer, ht.link⟩

end Hosts

/-- A lost connection: the buffer, the parser and the queue are cleared, and the disconnect
handler of the user makes its calls, if it is set. -/
theorem drop_cleared {s : SentinelClient κ} (hset : s.client.disconnectionHandler = true)
    (calls : List (Call κ)) :
    ∃ calls', after (drop (calling calls)) s =
      { s with client := s.client.lose.clear, callbacks := [] }.runCalls calls' := by
  have hset' : (connection.get (connection.update RedisConnection.clear
      (connection.update RedisConnection.lose s))).disconnectionHandler = true := hset
  unfold drop tcpClientDisconnectionHandler CppRedis.callDisconnectionHandler
    connectionDisconnectHandler callDisconnectHandler
  rw [after_modify_bind, after_modify_bind, after_get_bind, if_pos hset', after_modify_bind,
    after_bind_pure, after_get_bind]
  split
  · exact ⟨calls, rfl⟩
  · exact ⟨[], rfl⟩

/-! ## A sentinel and its server -/

/-- A sentinel and the connection it is on: the answers of the server, the bytes of these
that were not read yet, the entries popped for a reply that was read, and the callbacks
called for one. -/
structure World (κ : Type) where
  sentinel : SentinelClient κ
  answers : List Value := []
  inFlight : Bytes := []
  exchanged : List (SentinelRequest κ × Reply) := []
  called : List (κ × Reply) := []

namespace World

/-- What happens. A chunk is cut off the bytes in flight; its callbacks, and the disconnect
handler of a lost connection, come with the calls that they make. -/
inductive Event (κ : Type)
  | call (call : Call κ)
  | connect (host : Bytes) (port : Nat) (disconnectHandler : Bool) (timeoutMsecs : Nat)
      (accepted : Bool)
  | connectSentinel (disconnectHandler : Bool) (reachable : List Bool)
  | addSentinel (sentinel : SentinelDef)
  | clearSentinels
  | disconnect
  | answer (value : Value)
  | chunk (size : Nat) (callbacks : List (List (Call κ)))
  | drop (calls : List (Call κ))

/-- A sentinel that was made and not used yet. -/
def new (what : String) : World κ where
  sentinel := { client := { client := { what := what } } }

/-- The server answers a command that it has not answered yet. Bytes are read by a
request on an open connection. -/
def Enabled (w : World κ) : Event κ → Prop
  | .answer value =>
    w.sentinel.isConnected = true ∧ value.WellFormed ∧
      ∃ written ∈ decodeCommands w.sentinel.client.client.written, w.answers.length < written.length
  | .chunk _ _ => w.sentinel.isConnected = true ∧ 0 < w.sentinel.client.client.reads
  | .drop _ => w.sentinel.isConnected = true
  | _ => True

/-- The sentinel reads some bytes. The entries popped and the callbacks called are the last
ones of its history. -/
def read (w : World κ) (size : Nat) (callbacks : List (List (Call κ))) : World κ :=
  let s := after (receive (some (w.inFlight.take size)) (callbacks.map calling) (pure ()))
    (connection.update RedisConnection.completeRead w.sentinel)
  { w with
    sentinel := s
    inFlight := w.inFlight.drop size
    exchanged := w.exchanged ++ s.handled.drop w.sentinel.handled.length
    called := w.called ++ s.invoked.drop w.sentinel.invoked.length }

/-- With the connection, what was on its way is lost. -/
def step (w : World κ) : Event κ → World κ
  | .call call => { w with sentinel := call.run w.sentinel }
  | .connect host port disconnectHandler timeoutMsecs accepted =>
    { w with
      sentinel :=
        after (SentinelClient.connect host port disconnectHandler timeoutMsecs accepted) w.sentinel }
  | .connectSentinel disconnectHandler reachable =>
    { w with
      sentinel := after (SentinelClient.connectSentinel disconnectHandler reachable) w.sentinel }
  | .addSentinel sentinel => { w with sentinel := w.sentinel.addSentinel sentinel }
  | .clearSentinels => { w with sentinel := w.sentinel.clearSentinels }
  | .disconnect => { sentinel := w.sentinel.disconnect }
  | .answer value =>
    { w with answers := w.answers ++ [value], inFlight := w.inFlight ++ value.encode }
  | .chunk size callbacks => w.read size callbacks
  | .drop calls => { sentinel := after (SentinelClient.drop (calling calls)) w.sentinel }

/-- A sentinel, its server, and what happens. -/
def machine : Machine (World κ) (Event κ) :=
  ⟨Enabled, step⟩

/-- The sentinel is in step with the connection. On an open one, the answers that no entry
was popped for are those that the parser will make of the bytes in flight; the commands
written and not yet answered and those in the send buffer are the commands of the queue;
the entries answered on it and those in the queue are the last ones that were pushed, in
their order; the entries answered were popped for the answers to the commands written
first; and the callbacks called are theirs, each with the answer. On a closed one, the
buffer is the queue. -/
def InStep (w : World κ) : Prop :=
  if w.sentinel.isConnected then
    w.exchanged.length ≤ w.answers.length ∧
    w.sentinel.client.builder.Pending w.inFlight (w.answers.drop w.exchanged.length) ∧
    ∃ written ∈ decodeCommands w.sentinel.client.client.written,
    ∃ buffered ∈ decodeCommands w.sentinel.client.buffer,
      written.drop w.exchanged.length ++ buffered = commandsOf w.sentinel.callbacks ∧
      w.exchanged.map Prod.fst ++ w.sentinel.callbacks <:+ w.sentinel.pushed ∧
      w.exchanged.map (fun e => (e.1.command, e.2)) <+: written.zip (w.answers.map Value.toReply) ∧
      w.called = w.exchanged.filterMap callOf
  else
    decodeCommands w.sentinel.client.buffer = some (commandsOf w.sentinel.callbacks)

/-- `disconnect` is called, by the user or by the loop of `connect_sentinel`. -/
def Disconnects (w : World κ) : Event κ → Prop
  | .disconnect => True
  | .connectSentinel _ reachable => w.sentinel.Retries reachable
  | _ => False

/-! ### The invariant -/

/-- An open connection on which `sent` was written. -/
structure Opened (w : World κ) (sent held : List Command) : Prop where
  queued : Queued w.sentinel sent held (w.exchanged.map Prod.fst)
  replies : w.exchanged.map Prod.snd = (w.answers.take w.exchanged.length).map Value.toReply
  called : w.called = w.exchanged.filterMap callOf
  exchanged : w.exchanged.length ≤ w.answers.length
  answers : w.answers.length ≤ sent.length
  pending : w.sentinel.client.builder.Pending w.inFlight (w.answers.drop w.exchanged.length)
  replyCallback : w.sentinel.client.replyCallback = true
  disconnectionHandler : w.sentinel.client.disconnectionHandler = true

/-- A closed connection: nothing is left of the one before. -/
structure Closed (w : World κ) : Prop where
  waiting : Waiting w.sentinel
  builder : w.sentinel.client.builder = {}
  answers : w.answers = []
  inFlight : w.inFlight = []
  exchanged : w.exchanged = []
  called : w.called = []

/-- The connection is closed or open, and the sentinel is in step with it. -/
def Inv (w : World κ) : Prop :=
  w.Closed ∨ ∃ sent held, w.Opened sent held

section Invariant

variable {w : World κ} {sent held : List Command} {s' : SentinelClient κ}

/-- The world of an open connection, when the sentinel has sent some more. -/
theorem Opened.sentinel (h : w.Opened sent held) (hcalm : Calm w.sentinel s')
    {more held' : List Command}
    (hqueued : Queued s' (sent ++ more) held' (w.exchanged.map Prod.fst)) :
    Opened { w with sentinel := s' } (sent ++ more) held' where
  queued := hqueued
  replies := h.replies
  called := h.called
  exchanged := h.exchanged
  answers := h.answers.trans (List.length_append ▸ Nat.le_add_right _ _)
  pending := by
    show s'.client.builder.Pending w.inFlight (w.answers.drop w.exchanged.length)
    rw [hcalm.builder]
    exact h.pending
  replyCallback := hcalm.replyCallback.trans h.replyCallback
  disconnectionHandler := hcalm.disconnectionHandler.trans h.disconnectionHandler

/-- A call, made by the user. -/
theorem Inv.call (h : w.Inv) (call : Call κ) : Inv { w with sentinel := call.run w.sentinel } := by
  have hcalm := call.calm w.sentinel
  rcases h with hclosed | ⟨sent, held, hopened⟩
  · exact .inl ⟨hclosed.waiting.call call, hcalm.builder.trans hclosed.builder, hclosed.answers,
      hclosed.inFlight, hclosed.exchanged, hclosed.called⟩
  · obtain ⟨more, held', hqueued⟩ := hopened.queued.call call
    exact .inr ⟨_, _, hopened.sentinel hcalm hqueued⟩

/-- A step that leaves the two stores and the connection as they are. -/
structure Same (s s' : SentinelClient κ) : Prop extends Calm s s' where
  written : s'.client.client.written = s.client.client.written
  buffer : s'.client.buffer = s.client.buffer
  callbacks : s'.callbacks = s.callbacks
  pushed : s'.pushed = s.pushed

theorem Same.queued {s : SentinelClient κ} {done : List (SentinelRequest κ)} (h : Same s s')
    (hqueued : Queued s sent held done) : Queued s' sent held done where
  connected := h.connected.trans hqueued.connected
  written := h.written.trans hqueued.written
  buffer := h.buffer.trans hqueued.buffer
  commands := h.callbacks ▸ hqueued.commands
  issued := h.callbacks ▸ h.pushed ▸ hqueued.issued
  answered := hqueued.answered

theorem Same.waiting {s : SentinelClient κ} (h : Same s s') (hwaiting : Waiting s) : Waiting s' where
  closed := h.connected.trans hwaiting.closed
  buffer := h.callbacks ▸ h.buffer.trans hwaiting.buffer
  issued := h.callbacks ▸ h.pushed ▸ hwaiting.issued

theorem Inv.same (h : w.Inv) (hsame : Same w.sentinel s') : Inv { w with sentinel := s' } := by
  rcases h with hclosed | ⟨sent, held, hopened⟩
  · exact .inl ⟨hsame.waiting hclosed.waiting, hsame.builder.trans hclosed.builder, hclosed.answers,
      hclosed.inFlight, hclosed.exchanged, hclosed.called⟩
  · have hqueued := hsame.queued hopened.queued
    rw [← List.append_nil sent] at hqueued
    exact .inr ⟨_, _, hopened.sentinel hsame.toCalm hqueued⟩

/-- A new connection: what waited in the buffer is all that there is to answer. -/
theorem Closed.accept (h : w.Closed) {s' : SentinelClient κ}
    (hconnected : s'.client.client.connected = true) (hwritten : s'.client.client.written = [])
    (hbuffer : s'.client.buffer = w.sentinel.client.buffer) (hbuilder : s'.client.builder = {})
    (hreply : s'.client.replyCallback = true) (hset : s'.client.disconnectionHandler = true)
    (hcallbacks : s'.callbacks = w.sentinel.callbacks) (hpushed : s'.pushed = w.sentinel.pushed) :
    Opened { w with sentinel := s' } [] (commandsOf s'.callbacks) where
  queued := by
    show Queued s' [] _ (w.exchanged.map Prod.fst)
    rw [h.exchanged]
    refine ⟨hconnected, hwritten, ?_, rfl, ?_, Nat.le_refl 0⟩
    · rw [hbuffer, hcallbacks]
      exact h.waiting.buffer
    · show s'.callbacks <:+ s'.pushed
      rw [hcallbacks, hpushed]
      exact h.waiting.issued
  replies := by
    show w.exchanged.map Prod.snd = (w.answers.take w.exchanged.length).map Value.toReply
    rw [h.exchanged, h.answers]
    rfl
  called := by
    show w.called = w.exchanged.filterMap callOf
    rw [h.called, h.exchanged]
    rfl
  exchanged := by
    show w.exchanged.length ≤ w.answers.length
    rw [h.exchanged]
    exact Nat.zero_le _
  answers := by
    show w.answers.length ≤ 0
    rw [h.answers]
    rfl
  pending := by
    show s'.client.builder.Pending w.inFlight (w.answers.drop w.exchanged.length)
    rw [hbuilder, h.inFlight, h.answers, List.drop_nil]
    exact .new
  replyCallback := hreply
  disconnectionHandler := hset

/-- Connecting, successful or not. -/
theorem Inv.dialled (h : w.Inv) (hdialled : Dialled w.sentinel s') :
    Inv { w with sentinel := s' } := by
  obtain ⟨hcallbacks, hpushed, hhandled, hinvoked,
    hlink | ⟨endpoint, hlink⟩ | ⟨hc, endpoint, hlink⟩⟩ := hdialled
  · refine h.same ⟨⟨?_, ?_, ?_, ?_, hhandled, hinvoked⟩, ?_, ?_, hcallbacks, hpushed⟩ <;> rw [hlink]
  · refine h.same ⟨⟨?_, ?_, ?_, ?_, hhandled, hinvoked⟩, ?_, ?_, hcallbacks, hpushed⟩ <;>
      rw [hlink] <;> rfl
  · rcases h with hclosed | ⟨sent, held, hopened⟩
    · refine .inr ⟨_, _, hclosed.accept ?_ ?_ ?_ ?_ ?_ ?_ hcallbacks hpushed⟩ <;> rw [hlink] <;>
        first | rfl | exact hclosed.builder
    · exact absurd (hopened.queued.connected.symm.trans hc) Bool.noConfusion

/-- In every state the parser has handed out all replies that it has made. -/
theorem Inv.reset (h : w.Inv) : w.sentinel.client.builder.reset = {} := by
  have hnone : w.sentinel.client.builder.availableReplies = [] := by
    rcases h with hclosed | ⟨sent, held, hopened⟩
    · rw [hclosed.builder]
    · exact hopened.pending.none_available
  unfold ReplyBuilder.reset
  rw [hnone]

/-- `disconnect` is called with an empty queue. -/
theorem Inv.emptied (h : w.Inv) (hemptied : Emptied w.sentinel s')
    (hnone : w.sentinel.callbacks = []) : Inv { sentinel := s' } := by
  have hcallbacks := hemptied.callbacks.trans hnone
  have hwaiting : Closed { sentinel := s'.disconnect } := by
    refine ⟨⟨rfl, ?_, ?_⟩, ?_, rfl, rfl, rfl, rfl⟩
    · show [] = encodeCommands (commandsOf s'.callbacks)
      rw [hcallbacks]
      rfl
    · show s'.callbacks <:+ s'.pushed
      rw [hcallbacks]
      exact List.nil_suffix
    · show s'.client.builder.reset = {}
      rw [hemptied.builder]
      exact h.reset
  cases hc : s'.client.client.connected with
  | true =>
    obtain ⟨hwritten, hreply, hset⟩ := hemptied.link hc
    exact .inr ⟨_, _, hwaiting.accept hc hwritten hemptied.buffer (hemptied.builder.trans h.reset) hreply
      hset rfl rfl⟩
  | false =>
    refine .inl ⟨⟨hc, ?_, hwaiting.waiting.issued⟩, hemptied.builder.trans h.reset, rfl, rfl, rfl,
      rfl⟩
    show s'.client.buffer = encodeCommands (commandsOf s'.callbacks)
    rw [hemptied.buffer, hcallbacks]
    rfl

/-- An entry that was in the queue when `disconnect` was called is there without a request. -/
theorem not_inStep_of_emptied (hs : w.sentinel.callbacks ≠ []) (hbuffer : w.sentinel.client.buffer = [])
    (hwritten : w.sentinel.client.client.connected = true → w.sentinel.client.client.written = []) :
    ¬ w.InStep := by
  have hsome : commandsOf w.sentinel.callbacks ≠ [] := fun h => hs (List.map_eq_nil_iff.mp h)
  unfold InStep
  rw [hbuffer]
  split
  · next hc =>
    rw [hwritten hc]
    rintro ⟨-, -, written, hdecode, buffered, hdecode', hcommands, -⟩
    obtain rfl := Option.some.inj (show some [] = some written from hdecode)
    obtain rfl := Option.some.inj (show some [] = some buffered from hdecode')
    rw [List.drop_nil] at hcommands
    exact hsome hcommands.symm
  · intro hdecode
    exact hsome (Option.some.inj (show some [] = some _ from hdecode)).symm

theorem Inv.closed (h : w.Inv) (hc : w.sentinel.isConnected = false) : w.Closed := by
  rcases h with hclosed | ⟨sent, held, hopened⟩
  · exact hclosed
  · exact absurd (hopened.queued.connected.symm.trans hc) Bool.noConfusion

theorem Inv.opened (h : w.Inv) (hc : w.sentinel.isConnected = true) :
    ∃ sent held, w.Opened sent held := by
  rcases h with hclosed | hopened
  · exact absurd (hc.symm.trans hclosed.waiting.closed) Bool.noConfusion
  · exact hopened

theorem Inv.drop (h : w.Inv) (hc : w.sentinel.isConnected = true) (calls : List (Call κ)) :
    Inv { sentinel := after (SentinelClient.drop (calling calls)) w.sentinel } := by
  obtain ⟨sent, held, hopened⟩ := h.opened hc
  obtain ⟨calls', hdrop⟩ := drop_cleared hopened.disconnectionHandler calls
  have hcalm := runCalls_calm calls'
    { w.sentinel with client := w.sentinel.client.lose.clear, callbacks := [] }
  have hwaiting : Waiting { w.sentinel with client := w.sentinel.client.lose.clear, callbacks := [] } :=
    ⟨rfl, rfl, List.nil_suffix⟩
  rw [hdrop]
  exact .inl ⟨hwaiting.calls calls', hcalm.builder.trans h.reset, rfl, rfl, rfl, rfl⟩

theorem Inv.answer (h : w.Inv) {value : Value} (hvalue : value.WellFormed)
    (hc : w.sentinel.isConnected = true) {written : List Command}
    (hwritten : decodeCommands w.sentinel.client.client.written = some written)
    (hlt : w.answers.length < written.length) :
    Inv { w with answers := w.answers ++ [value], inFlight := w.inFlight ++ value.encode } := by
  obtain ⟨sent, held, hopened⟩ := h.opened hc
  rw [hopened.queued.written, decodeCommands_encodeCommands] at hwritten
  obtain rfl := Option.some.inj hwritten
  refine .inr ⟨sent, held, ⟨hopened.queued, ?_, hopened.called, ?_, ?_, ?_, hopened.replyCallback,
    hopened.disconnectionHandler⟩⟩
  · dsimp only
    rw [List.take_append_of_le_length hopened.exchanged]
    exact hopened.replies
  · dsimp only
    rw [List.length_append]
    exact hopened.exchanged.trans (Nat.le_add_right _ _)
  · dsimp only
    rw [List.length_append]
    exact hlt
  · dsimp only
    rw [List.drop_append_of_le_length hopened.exchanged]
    exact hopened.pending.answer hvalue

/-- A chunk: the entries that it answers are handled with the next answers. -/
theorem Inv.read (h : w.Inv) (hc : w.sentinel.isConnected = true) (size : Nat)
    (callbacks : List (List (Call κ))) : Inv (w.read size callbacks) := by
  obtain ⟨sent, held, hopened⟩ := h.opened hc
  obtain ⟨b, replies, hfeed, hle, hreplies, hlater⟩ := hopened.pending.read hopened.exchanged size
  have hsame : Same w.sentinel (connection.update RedisConnection.completeRead w.sentinel) :=
    ⟨⟨rfl, rfl, rfl, rfl, rfl, rfl⟩, rfl, rfl, rfl, rfl⟩
  have hdone : (w.exchanged.map Prod.fst).length + replies.length ≤ sent.length := by
    rw [List.length_map]
    exact hle.trans hopened.answers
  have hdelivered := receive_chunk callbacks (pure ()) (hsame.queued hopened.queued)
    hopened.replyCallback hlater.none_available hfeed hdone
  unfold World.read
  dsimp only
  generalize after (SentinelClient.receive (some (w.inFlight.take size)) (callbacks.map calling) (pure ()))
    (connection.update RedisConnection.completeRead w.sentinel) = s' at hdelivered ⊢
  obtain ⟨hbuilder, hreply, hset, entries, more, held', hentries, hhandled, hinvoked, hqueued⟩ :=
    hdelivered
  rw [List.append_nil] at hentries
  have hlength : entries.length = replies.length := by
    rw [← hentries, List.length_map]
  -- what the step records as exchanged is what the chunk has handed out
  have hnew : s'.handled.drop w.sentinel.handled.length = entries := by
    rw [hhandled]
    exact List.drop_left
  have hcalls : s'.invoked.drop w.sentinel.invoked.length = entries.filterMap callOf := by
    rw [hinvoked]
    exact List.drop_left
  rw [hnew, hcalls]
  refine .inr ⟨sent ++ more, held', ⟨?_, ?_, ?_, ?_, ?_, ?_, hreply,
    hset.trans hopened.disconnectionHandler⟩⟩
  · dsimp only
    rw [List.map_append]
    exact hqueued
  · dsimp only
    rw [List.map_append, hopened.replies, hentries, List.length_append, hlength, List.take_add,
      List.map_append, ← hreplies]
  · dsimp only
    rw [List.filterMap_append, hopened.called]
  · dsimp only
    rw [List.length_append, hlength]
    exact hle
  · dsimp only
    rw [List.length_append]
    exact hopened.answers.trans (Nat.le_add_right _ _)
  · dsimp only
    rw [hbuilder, List.length_append, hlength]
    exact hlater

/-- Every step keeps the invariant, unless it calls `disconnect` with entries in the queue. -/
theorem Inv.step (h : w.Inv) (e : Event κ) (he : w.Enabled e)
    (hnone : w.Disconnects e → w.sentinel.callbacks = []) : Inv (w.step e) := by
  cases e with
  | call call => exact h.call call
  | connect host port disconnectHandler timeoutMsecs accepted =>
    exact h.dialled (connect_dialled host port disconnectHandler timeoutMsecs accepted w.sentinel)
  | connectSentinel disconnectHandler reachable =>
    rcases connectSentinel_cases disconnectHandler reachable w.sentinel with
      ⟨hretries, hemptied⟩ | ⟨-, hdialled⟩
    · -- the connection was closed before
      have hclosed := h.closed hretries.1
      have hinv := h.emptied hemptied (hnone hretries)
      show Inv ⟨_, w.answers, w.inFlight, w.exchanged, w.called⟩
      rw [hclosed.answers, hclosed.inFlight, hclosed.exchanged, hclosed.called]
      exact hinv
    · exact h.dialled hdialled
  | addSentinel sentinel => exact h.same ⟨⟨rfl, rfl, rfl, rfl, rfl, rfl⟩, rfl, rfl, rfl, rfl⟩
  | clearSentinels => exact h.same ⟨⟨rfl, rfl, rfl, rfl, rfl, rfl⟩, rfl, rfl, rfl, rfl⟩
  | disconnect => exact h.emptied (disconnect_emptied w.sentinel) (hnone trivial)
  | answer value =>
    obtain ⟨hc, hvalue, written, hwritten, hlt⟩ := he
    exact h.answer hvalue hc hwritten hlt
  | chunk size callbacks => exact h.read he.1 size callbacks
  | drop calls => exact h.drop he calls

/-- A step that calls `disconnect` with entries in the queue ends out of step. -/
theorem Inv.step_broken (e : Event κ) (hdisconnects : w.Disconnects e)
    (hsome : w.sentinel.callbacks ≠ []) : ¬ (w.step e).InStep := by
  have hbroken {s' : SentinelClient κ} {w' : World κ} (hw' : w'.sentinel = s')
      (hemptied : Emptied w.sentinel s') : ¬ w'.InStep := by
    subst hw'
    refine not_inStep_of_emptied ?_ hemptied.buffer fun hc => (hemptied.link hc).1
    rw [hemptied.callbacks]
    exact hsome
  cases e with
  | disconnect => exact hbroken rfl (disconnect_emptied w.sentinel)
  | connectSentinel disconnectHandler reachable =>
    rcases connectSentinel_cases disconnectHandler reachable w.sentinel with
      ⟨-, hemptied⟩ | ⟨hretries, -⟩
    · exact hbroken rfl hemptied
    · exact absurd hdisconnects hretries
  | _ => exact hdisconnects.elim

theorem Inv.new (what : String) : Inv (new what : World κ) :=
  .inl ⟨⟨rfl, rfl, List.nil_suffix⟩, rfl, rfl, rfl, rfl, rfl⟩

/-- What the invariant says to someone who looks at the bytes. -/
theorem Inv.inStep (h : w.Inv) : w.InStep := by
  unfold InStep
  rcases h with hclosed | ⟨sent, held, hopened⟩
  · have hc : w.sentinel.isConnected = false := hclosed.waiting.closed
    rw [hc, if_neg Bool.false_ne_true, hclosed.waiting.buffer, decodeCommands_encodeCommands]
  · have hc : w.sentinel.isConnected = true := hopened.queued.connected
    have hleft : sent.drop _ ++ held = commandsOf w.sentinel.callbacks :=
      Backlog.drop_written hopened.queued.commands hopened.queued.answered
    rw [List.length_map] at hleft
    rw [if_pos hc]
    refine ⟨hopened.exchanged, hopened.pending, sent, ?_, held, ?_, hleft, hopened.queued.issued, ?_,
      hopened.called⟩
    · rw [hopened.queued.written]
      exact decodeCommands_encodeCommands sent
    · rw [hopened.queued.buffer]
      exact decodeCommands_encodeCommands held
    · exact Backlog.answered_prefix hopened.queued.commands hopened.queued.answered
        (hopened.replies.trans List.map_take)

end Invariant

/-! ### Every run -/

/-- In every state of a run the sentinel is in step with the connection if and only if
`disconnect` is only ever called, by the user or by the loop of `connect_sentinel`, with no
callback in the queue. -/
theorem always_inStep_iff (what : String) {events : List (Event κ)}
    (h : machine.Possible (new what) events) :
    machine.Always InStep (new what) events ↔
      machine.Along (fun w e => w.Disconnects e → w.sentinel.callbacks = []) (new what) events := by
  refine Machine.always_iff_along_of_kept (K := Inv) (fun w hw => hw.inStep)
    (fun w e hw he hnone => hw.step e he hnone) (fun w e hw he hnext hdisconnects => ?_) h (.new what)
  by_contra hsome
  exact Inv.step_broken e hdisconnects hsome hnext

/-- A request is answered, and the connection closed by the user with no other one waiting;
two sentinels are tried until the second one accepts, and a request is lost with it. -/
def tidy : List (Event Nat) :=
  [.addSentinel ⟨ascii "s1", 26379, 0⟩, .addSentinel ⟨ascii "s2", 26379, 0⟩,
    .connectSentinel false [true], .call (.send [ascii "PING"] (some 0)), .call .commit,
    .answer .nullBulk, .chunk 3 [], .chunk 2 [], .disconnect, .connectSentinel true [false, true],
    .call (.send [ascii "PING"] (some 1)), .call .commit, .drop [.send [ascii "PING"] (some 2)]]

theorem always_inStep_iff_tidy :
    machine.Always InStep (new "") tidy ↔
      machine.Along (fun w e => w.Disconnects e → w.sentinel.callbacks = []) (new "") tidy := by
  have hrun : machine.Possible (new "") tidy :=
    .intro trivial <| .intro trivial <| .intro trivial <| .intro trivial <| .intro trivial <|
      .intro ⟨by decide +kernel, trivial, by decide +kernel⟩ <|
      .intro ⟨by decide +kernel, by decide +kernel⟩ <|
      .intro ⟨by decide +kernel, by decide +kernel⟩ <| .intro trivial <| .intro trivial <|
      .intro trivial <| .intro trivial <|
      .intro (show SentinelClient.isConnected _ = true by decide +kernel) trivial
  exact always_inStep_iff "" hrun

/-- The user disconnects with a request on the way. -/
def disconnectsEarly : List (Event Nat) :=
  [.connect (ascii "s1") 26379 false 0 true, .call (.send [ascii "PING"] (some 0)), .call .commit,
    .disconnect]

/-- The callback of a request that went down with its connection is still in the queue. -/
theorem not_always_inStep :
    ¬ ∀ events : List (Event Nat), machine.Possible (new "") events →
      InStep (machine.run (new "") events) := by
  intro h
  have hrun : machine.Possible (new "") disconnectsEarly :=
    .intro trivial <| .intro trivial <| .intro trivial <| .intro trivial trivial
  have hstep := h disconnectsEarly hrun
  have hclosed : (machine.run (new "") disconnectsEarly).sentinel.isConnected = false := by
    decide +kernel
  unfold InStep at hstep
  rw [hclosed, if_neg Bool.false_ne_true] at hstep
  exact absurd hstep (by decide +kernel)

end World

end SentinelClient

end CppRedis
