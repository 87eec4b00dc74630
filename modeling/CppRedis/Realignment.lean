import CppRedis.Alignment

/-!
# The queue and the connection after a reconnection

A reconnection that succeeds starts a connection on which `m_commands` is already waiting. This
module runs the client on that connection, against a server that answers each command once and
in order.

* `Aloof`: a connect callback that leaves the queue and the connection alone.
* `reconnect_renewed`: what a reconnection that succeeds leaves of both.
* `Realigned`: what was written are the commands of the queue, and in every run on the new
  connection the n-th reply goes to the callback of the n-th command.
* `reconnect_aligned_iff`: so it is if and only if there was nothing to restore, and no reply of
  the old connection was left over.
-/

namespace CppRedis

open Text Procedure

/-- A parser between two replies from which all replies were taken is a new one. -/
theorem ReplyBuilder.eq_new {b : ReplyBuilder} (hidle : b.Idle) (hnone : b.availableReplies = []) :
    b = {} := by
  obtain ⟨⟨builder, available⟩, buffer⟩ := b
  obtain ⟨rfl, rfl⟩ := hidle
  cases hnone
  rfl

namespace Client

variable {κ : Type}

/-! ## The reconnection -/

/-- The two states differ in what is only recorded: the queue and the connection are the same. -/
structure Still (c c' : Client κ) : Prop extends Same c c' where
  builder : c'.client.builder = c.client.builder
  reads : c'.client.client.reads = c.client.client.reads
  replyCallback : c'.client.replyCallback = c.client.replyCallback
  disconnectionHandler : c'.client.disconnectionHandler = c.client.disconnectionHandler

theorem Still.refl (c : Client κ) : Still c c :=
  ⟨.refl c, rfl, rfl, rfl, rfl⟩

theorem Still.trans {c₁ c₂ c₃ : Client κ} (h : Still c₁ c₂) (h' : Still c₂ c₃) : Still c₁ c₃ :=
  ⟨h.toSame.trans h'.toSame, h'.builder.trans h.builder, h'.reads.trans h.reads,
    h'.replyCallback.trans h.replyCallback,
    h'.disconnectionHandler.trans h.disconnectionHandler⟩

/-- Other than when the connection was dropped, the connect callback returns and leaves the queue
and the connection alone. It runs with the lock held. -/
def Aloof (notify : Notification → EStateM Fault (Client κ) Unit) : Prop :=
  ∀ n, n.state ≠ .dropped → ∀ c, ∃ c', notify n c = .ok () c' ∧ Still c c'

theorem aloof_silent : Aloof (silent : Notification → EStateM Fault (Client κ) Unit) :=
  fun _ _ c => ⟨c, rfl, .refl c⟩

variable {notify : Notification → EStateM Fault (Client κ) Unit}

theorem idle_still (ha : Aloof notify) : (owner notify).Idle Still where
  refl := Still.refl
  trans := Still.trans
  connected h := h.connected
  told c n hn := by
    have hrecord : Still c ((owner notify).session.update (·.record n) c) :=
      ⟨⟨rfl, rfl, rfl, rfl, rfl, rfl⟩, rfl, rfl, rfl, rfl⟩
    obtain ⟨c', hok, hstill⟩ := ha n hn ((owner notify).session.update (·.record n) c)
    have hnotify : (owner notify).notify n = notify n := rfl
    rw [hnotify, after_ok hok]
    exact hrecord.trans hstill
  count _ := ⟨⟨rfl, rfl, rfl, rfl, rfl, rfl⟩, rfl, rfl, rfl, rfl⟩
  lookup c lookup := by
    obtain ⟨host, port, hafter⟩ := Session.after_getMasterAddrByName lookup c.toSession
    have hget : (owner notify).session.get c = c.toSession := rfl
    rw [hget, hafter]
    exact ⟨⟨rfl, rfl, rfl, rfl, rfl, rfl⟩, rfl, rfl, rfl, rfl⟩
  refuse _ _ := ⟨⟨rfl, rfl, rfl, rfl, rfl, rfl⟩, rfl, rfl, rfl, rfl⟩

/-- The connection is a new one, which is read; what was restored is at the end of the queue, and
was written in front of the queue too. The parser is as it was. -/
structure Renewed (c c' : Client κ) : Prop where
  connected : c'.client.client.connected = true
  reads : c'.client.client.reads = 1
  written : c'.client.client.written = c.client.buffer ++
    encodeCommands (commandsOf (c.restored ++ (c.commands ++ c.restored)))
  buffer : c'.client.buffer = []
  commands : c'.commands = c.commands ++ c.restored
  builder : c'.client.builder = c.client.builder
  replyCallback : c'.client.replyCallback = true
  disconnectionHandler : c'.client.disconnectionHandler = true

/-- An attempt that ends connected. -/
theorem reconnect_renewed (ha : Aloof notify) {a : Attempt} {c c' : Client κ}
    (hc : c.client.client.connected = false) (h : reconnect notify a c = .ok () c')
    (hc' : c'.client.client.connected = true) : Renewed c c' := by
  rcases (idle_still ha).reconnect_ok resume_connected hc h with hstill | ⟨c₁, hopens, hresume⟩
  -- an attempt that fails leaves the connection closed
  · rw [hstill.connected, hc] at hc'
    cases hc'
  · obtain ⟨endpoint, c₀, hbefore, hafter⟩ := hopens
    obtain ⟨-, hclient, hcommands⟩ := resume_client hresume
    have hwritten : c₁.client.client.written = [] := hafter.written
    have hbuffer : c₁.client.buffer = c.client.buffer := hafter.buffer.trans hbefore.buffer
    have hqueue : c₁.commands = c.commands := hafter.commands.trans hbefore.commands
    have hrestored : c₁.restored = c.restored := by
      unfold restored
      rw [show c₁.password = c.password from hafter.password.trans hbefore.password,
        show c₁.databaseIndex = c.databaseIndex from
          hafter.databaseIndex.trans hbefore.databaseIndex]
    rw [hqueue, hrestored] at hclient hcommands
    rw [hbuffer] at hclient
    refine ⟨hc', ?_, ?_, ?_, hcommands, ?_, ?_, ?_⟩ <;> rw [hclient]
    · exact hafter.reads
    · exact congrArg (· ++ _) hwritten
    · rfl
    · exact hafter.builder.trans hbefore.builder
    · exact hafter.replyCallback
    · exact hafter.disconnectionHandler

/-! ## The new connection -/

namespace World

/-- A client that is connected again, when the handler of the lost connection has returned. The
history of what was pushed begins with the queue. -/
def reconnected (c : Client κ) : World κ where
  client := { c with reconnecting := false, pushed := c.commands }

/-- The event neither opens a connection nor ends one. -/
def Event.stays : Event κ → Bool
  | .call _ => true
  | .answer _ => true
  | .chunk _ _ => true
  | .failure _ _ => true
  | _ => false

/-- The n-th reply was handed to the entry of the n-th command written, which is the n-th one of
those pushed, and given to its callback. When all bytes have arrived, so were all replies. -/
def Delivered (w : World κ) : Prop :=
  ∃ written ∈ decodeCommands w.client.client.client.written,
    w.exchanged.map Prod.fst ++ w.client.commands = w.client.pushed ∧
    w.exchanged.map (fun e => (e.1.command, e.2)) <+: written.zip (w.answers.map Value.toReply) ∧
    w.called = w.exchanged.filterMap callOf ∧
    (w.inFlight = [] → w.exchanged.length = w.answers.length)

/-- An open connection on which all entries count that were ever pushed. -/
structure Serving (w : World κ) : Prop where
  reconnecting : w.client.reconnecting = false
  settled : w.client.client.builder.Settled
  opened : ∃ sent held, w.Opened [] sent held

theorem Serving.step {w : World κ} (h : w.Serving) {e : Event κ} (hstays : e.stays = true)
    (he : w.Enabled e) : (w.step notify e).Serving := by
  obtain ⟨hr, hsettled, sent, held, hopened⟩ := h
  cases e with
  | call call =>
    obtain ⟨more, held', hopened'⟩ := hopened.calls hr [call]
    have hcalm := (call.calm hr).1
    exact ⟨hcalm.reconnecting.trans hr, hcalm.builder ▸ hsettled, _, _, hopened'⟩
  | answer value =>
    obtain ⟨-, hvalue, written, hwritten, hlt⟩ := he
    exact ⟨hr, hsettled, _, _, hopened.answer hvalue hwritten hlt⟩
  | chunk size callbacks =>
    obtain ⟨hr', hsettled', hopened'⟩ := hopened.read hr size callbacks
    exact ⟨hr', hsettled', hopened'⟩
  | failure i calls =>
    obtain ⟨c₁, calls', hfirst, hlast⟩ := failureStep_calling i calls w.client
    have hr₁ : c₁.reconnecting = false := hfirst.reconnecting.trans hr
    have hcalm := (runCalls_calm hr₁ calls').1
    obtain ⟨more, held', hopened'⟩ := (hopened.same hfirst).calls hr₁ calls'
    have hbuilder := hlast.builder.trans (hcalm.builder.trans hfirst.builder)
    exact ⟨hlast.reconnecting.trans (hcalm.reconnecting.trans hr₁), hbuilder ▸ hsettled, _, _,
      hopened'.same hlast⟩
  | _ => cases hstays

theorem Serving.delivered {w : World κ} (h : w.Serving) : w.Delivered := by
  obtain ⟨-, hsettled, sent, held, hopened⟩ := h
  refine ⟨sent, hopened.queued.decode_written, hopened.queued.issued.symm,
    hopened.exchanged_prefix, hopened.called, fun harrived => ?_⟩
  have hpending := hopened.pending
  rw [harrived] at hpending
  exact Nat.le_antisymm hopened.exchanged
    (List.drop_eq_nil_iff.mp (hpending.none_left hsettled))

end World

/-- What was written to the new connection are the commands of the queue, and in every run on it
the replies of the server go to the callbacks of the commands that they answer. -/
def Realigned (notify : Notification → EStateM Fault (Client κ) Unit) (c : Client κ) : Prop :=
  decodeCommands c.client.client.written = some (commandsOf c.commands) ∧
    ∀ events : List (World.Event κ), (∀ e ∈ events, e.stays = true) →
      (World.machine notify).Possible (World.reconnected c) events →
      ((World.machine notify).run (World.reconnected c) events).Delivered

section Renewed

variable {c c' : Client κ}

/-- What was written and the queue differ in what was restored. -/
theorem Renewed.written_iff (h : Renewed c c') (hb : c.client.buffer = []) :
    decodeCommands c'.client.client.written = some (commandsOf c'.commands) ↔ c.restored = [] := by
  rw [h.written, hb, List.nil_append, decodeCommands_encodeCommands, h.commands, Option.some.injEq]
  constructor
  · intro heq
    have hlen := congrArg List.length heq
    simp only [commandsOf, List.length_map, List.length_append] at hlen
    exact List.length_eq_zero_iff.mp (by omega)
  · intro hnil
    rw [hnil]
    rfl

/-- Where nothing was restored, the queue is what was written. -/
theorem Renewed.queued (h : Renewed c c') (hb : c.client.buffer = []) (hnone : c.restored = []) :
    Queued (World.reconnected c').client [] (commandsOf c'.commands) [] [] where
  connected := h.connected
  written := by
    show c'.client.client.written = _
    rw [h.written, hb, h.commands, hnone, List.append_nil]
    rfl
  buffer := h.buffer
  commands := List.append_nil _
  issued := rfl
  answered := Nat.zero_le _

theorem Renewed.serving (h : Renewed c c') (hb : c.client.buffer = []) (hnone : c.restored = [])
    (hbuilder : c.client.builder = {}) : (World.reconnected c').Serving := by
  have hnew : (World.reconnected c').client.client.builder = {} := h.builder.trans hbuilder
  refine ⟨rfl, hnew ▸ ReplyBuilder.settled_new, commandsOf c'.commands, [], h.queued hb hnone, rfl,
    rfl, Nat.le_refl 0, Nat.zero_le _, ?_, h.replyCallback, h.disconnectionHandler⟩
  rw [hnew]
  exact .new

end Renewed

/-! ## A reply that is left over -/

section LeftOver

variable {c : Client κ} {replies : List Reply} {request : CommandRequest κ} {reply : Reply}

/-- While the replies of a chunk are delivered to `c`, the first of which was left over: either
none was delivered yet, or the first one was handed to the entry in front. -/
structure Misdelivering (c : Client κ) (replies : List Reply) (request : CommandRequest κ)
    (reply : Reply) (left : List Reply) (c' : Client κ) : Prop where
  reconnecting : c'.reconnecting = false
  connected : c'.client.client.connected = true
  available : c'.client.builder.availableReplies = left
  replyCallback : c'.client.replyCallback = true
  handed : (left = replies ∧ c'.handled = c.handled ∧ c'.commands.head? = some request) ∨
    c.handled ++ [(request, reply)] <+: c'.handled

/-- One more reply is delivered. -/
theorem Misdelivering.turn (hreplies : replies.head? = some reply) {first : Reply}
    {left : List Reply} {c' : Client κ}
    (h : Misdelivering c replies request reply (first :: left) c')
    (input : Option (List (PipelineCall κ))) :
    ∃ c'', connectionReceiveHandler (input.map calling) first
        (connection.update (RedisConnection.popReply left) c') = .ok () c'' ∧
      Misdelivering c replies request reply left c'' := by
  generalize hpopped : connection.update (RedisConnection.popReply left) c' = c₁
  have hr : (c₁.answerFront first).reconnecting = false := by
    rw [← hpopped]
    exact h.reconnecting
  have hanswered : (c₁.answerFront first).handled =
      c'.handled ++ (c'.commands.head?.map fun request => (request, first)).toList := by
    rw [← hpopped]
    rfl
  obtain ⟨calls', hreceive⟩ := connectionReceiveHandler_calling input first c₁
  obtain ⟨hcalm, hhandled, -⟩ := runCalls_calm hr calls'
  refine ⟨_, hreceive, hcalm.reconnecting.trans hr, ?_, ?_, ?_, .inr ?_⟩
  · refine hcalm.connected.trans ?_
    rw [← hpopped]
    exact h.connected
  · refine (congrArg (·.availableReplies) hcalm.builder).trans ?_
    rw [← hpopped]
    rfl
  · refine hcalm.replyCallback.trans ?_
    rw [← hpopped]
    exact h.replyCallback
  · show _ <+: ((c₁.answerFront first).runCalls calls').handled
    rw [hhandled, hanswered]
    rcases h.handed with ⟨hall, hkept, hfront⟩ | hprefix
    -- the first turn: what is delivered is the reply that was left over
    · rw [← hall] at hreplies
      rw [hkept, hfront, Option.some.inj hreplies]
      exact List.prefix_refl _
    · exact hprefix.trans (List.prefix_append _ _)

/-- The answer to a command arrives where a reply was left over: the one left over goes to the
entry in front. -/
theorem World.read_leftOver (notify : Notification → EStateM Fault (Client κ) Unit) {w : World κ}
    {rest : List Reply} (hr : w.client.reconnecting = false)
    (hc : w.client.client.client.connected = true) (hset : w.client.client.replyCallback = true)
    (hidle : w.client.client.builder.Idle)
    (hleft : w.client.client.builder.availableReplies = reply :: rest)
    (hfront : w.client.commands.head? = some request) {value : Value} (hvalue : value.WellFormed)
    (harrives : w.inFlight = value.encode) :
    w.exchanged ++ [(request, reply)] <+: (w.read notify value.encode.length []).exchanged := by
  have hone : ∀ r ∈ [value], r.WellFormed := fun r hr => List.mem_singleton.mp hr ▸ hvalue
  have hfeed := ReplyBuilder.feed_encodeAll hidle hone
  rw [Value.encodeAll, Value.encodeAll, List.append_nil, hleft] at hfeed
  have hfirst : (reply :: rest ++ [value].map Value.toReply).head? = some reply := rfl
  generalize reply :: rest ++ [value].map Value.toReply = replies at hfeed hfirst
  obtain ⟨c₂, hend, hreceive⟩ := RedisConnection.receive_ok
    (P := Misdelivering w.client replies request reply)
    (s := connection.update RedisConnection.completeRead w.client)
    (fun h => ⟨h.available, h.replyCallback⟩) (fun input h => h.turn hfirst input)
    (fun h => h.connected) (connectionDisconnectionHandler notify id [])
    ([] : List (List (PipelineCall κ))) hfeed
    ⟨hr, hc, rfl, hset, .inl ⟨rfl, rfl, hfront⟩⟩
  rw [List.map_nil] at hreceive
  unfold World.read receive
  rw [harrives, List.take_length, List.map_nil, hreceive]
  rcases hend.handed with ⟨hnone, -⟩ | ⟨more, hmore⟩
  -- there was something to deliver
  · rw [← hnone] at hfirst
    cases hfirst
  · show _ <+: w.exchanged ++ c₂.handled.drop w.client.handled.length
    rw [← hmore, List.append_assoc, List.drop_left]
    exact List.prefix_append_right_inj _ |>.mpr (List.prefix_append _ _)

/-- The server may answer otherwise than with a given reply. -/
theorem exists_toReply_ne (reply : Reply) :
    ∃ value : Value, value.WellFormed ∧ value.toReply ≠ reply := by
  by_cases h : (Value.integer 0).toReply = reply
  · refine ⟨.nullBulk, trivial, fun hnull => ?_⟩
    exact absurd (congrArg Reply.type (h.trans hnull.symm)) (by decide)
  · exact ⟨.integer 0, ⟨by decide, by decide⟩, h⟩

/-- PING is sent and committed. -/
def ping (c : Client κ) : Client κ :=
  after Client.commit (c.send [ascii "PING"] none)

theorem ping_eq (hr : c.reconnecting = false) (hc : c.client.client.connected = true) :
    c.ping = connection.update RedisConnection.flush (c.push ⟨[ascii "PING"], none⟩) :=
  commit_open (c := c.push ⟨[ascii "PING"], none⟩) hr hc

/-- The server answers the command. -/
def pinged (value : Value) : List (World.Event κ) :=
  [.call (.send [ascii "PING"] none), .call .commit, .answer value,
    .chunk value.encode.length []]

theorem pinged_stays (value : Value) :
    ∀ e ∈ (pinged value : List (World.Event κ)), e.stays = true := by
  intro e he
  simp only [pinged, List.mem_cons, List.not_mem_nil, or_false] at he
  rcases he with rfl | rfl | rfl | rfl <;> rfl

theorem Renewed.not_realigned {c' : Client κ} (h : Renewed c c') (hb : c.client.buffer = [])
    (hnone : c.restored = []) (hidle : c.client.builder.Idle)
    (hleft : c.client.builder.availableReplies ≠ []) : ¬ Realigned notify c' := by
  rintro ⟨-, hruns⟩
  obtain ⟨reply, rest, hleft⟩ := List.exists_cons_of_ne_nil hleft
  obtain ⟨value, hvalue, hne⟩ := exists_toReply_ne reply
  have hping := ping_eq (c := (World.reconnected c').client) rfl h.connected
  have hqueued := ((h.queued hb hnone).push ⟨[ascii "PING"], none⟩).flush
  rw [← hping] at hqueued
  generalize hsent : commandsOf c'.commands ++ _ = sent at hqueued
  have hlt : 0 < sent.length := by
    rw [← hsent, List.nil_append, List.length_append]
    exact Nat.lt_add_left _ Nat.one_pos
  have hreads : 0 < (World.reconnected c').client.ping.client.client.reads := by
    rw [hping]
    exact h.reads.symm ▸ Nat.one_pos
  have hpossible : (World.machine notify).Possible (World.reconnected c') (pinged value) :=
    ⟨trivial, trivial, ⟨hqueued.connected, hvalue, sent, hqueued.decode_written, hlt⟩,
      ⟨hqueued.connected, hreads⟩, trivial⟩
  obtain ⟨written, -, -, hprefix, -⟩ := hruns _ (pinged_stays value) hpossible
  -- the chunk hands the reply that was left over to the entry in front
  obtain ⟨request, hfront⟩ : ∃ request, (World.reconnected c').client.ping.commands.head? =
      some request := by
    rw [hping]
    show ∃ request, (c'.commands ++ _).head? = some request
    cases c'.commands with
    | nil => exact ⟨_, rfl⟩
    | cons request requests => exact ⟨request, rfl⟩
  have hbuilder : (World.reconnected c').client.ping.client.builder = c.client.builder := by
    rw [hping]
    exact h.builder
  have hset : (World.reconnected c').client.ping.client.replyCallback = true := by
    rw [hping]
    exact h.replyCallback
  have hr : (World.reconnected c').client.ping.reconnecting = false := by
    rw [hping]
    rfl
  have hread := World.read_leftOver notify
    (w := { client := (World.reconnected c').client.ping, answers := [value], inFlight := value.encode })
    hr hqueued.connected hset (hbuilder ▸ hidle) (hbuilder ▸ hleft) hfront hvalue rfl
  have hhanded := (hread.map fun e => (e.1.command, e.2)).trans hprefix
  cases written with
  | nil => cases List.prefix_nil.mp hhanded
  | cons command commands =>
    obtain ⟨hhead, -⟩ := List.cons_prefix_cons.mp hhanded
    exact hne (Prod.mk.inj hhead).2.symm

end LeftOver

/-! ## Alignment -/

/-- After a reconnection of a lost connection, of which neither the send buffer nor the state of
the parser is left, what was written are the commands of the queue, and their replies go to their
callbacks, if and only if there was no password and no database to restore, and no reply of the
lost connection was still to be handed out. -/
theorem reconnect_aligned_iff (ha : Aloof notify) {a : Attempt} {c c' : Client κ}
    (hc : c.client.client.connected = false) (hb : c.client.buffer = [])
    (hidle : c.client.builder.Idle) (h : reconnect notify a c = .ok () c')
    (hc' : c'.client.client.connected = true) :
    Realigned notify c' ↔
      c.password = [] ∧ c.databaseIndex ≤ 0 ∧ c.client.builder.availableReplies = [] := by
  have hrenewed := reconnect_renewed ha hc h hc'
  rw [← and_assoc, ← restored_eq_nil_iff]
  constructor
  · intro haligned
    have hnone := (hrenewed.written_iff hb).mp haligned.1
    refine ⟨hnone, ?_⟩
    by_contra hleft
    exact hrenewed.not_realigned hb hnone hidle hleft haligned
  · rintro ⟨hnone, hleft⟩
    have hbuilder : c.client.builder = {} := ReplyBuilder.eq_new hidle hleft
    have hserving := hrenewed.serving hb hnone hbuilder
    refine ⟨(hrenewed.written_iff hb).mpr hnone, fun events hstays hpossible => ?_⟩
    exact (hpossible.invariant_of_kind (fun _ _ hw he => hw.step he) hstays hserving).delivered

/-- A client that was dropped with one pending command. -/
def pendingGet (password : Bytes) : Client Nat where
  password := password
  commands := [⟨[ascii "GET", ascii "k"], some (.user 0)⟩]

/-- Without a password the client above is aligned after its reconnection. -/
theorem reconnect_aligned_iff_pendingGet :
    Realigned silent (after (reconnect silent { accepted := true }) (pendingGet [])) ↔
      (pendingGet []).password = [] ∧ (pendingGet []).databaseIndex ≤ 0 ∧
        (pendingGet []).client.builder.availableReplies = [] :=
  reconnect_aligned_iff aloof_silent rfl rfl ⟨rfl, rfl⟩ (eq_ok_of_value (by decide +kernel))
    (by decide +kernel)

/-- With a password, AUTH is written twice and queued once: GET is written in
front of the second AUTH and behind the first one, which has no callback. -/
theorem not_reconnect_aligned :
    ¬ ∀ (a : Attempt) (c c' : Client Nat), c.client.client.connected = false →
      c.client.buffer = [] → c.client.builder.Idle → reconnect silent a c = .ok () c' →
      c'.client.client.connected = true → Realigned silent c' := by
  intro h
  have haligned := h { accepted := true } (pendingGet (ascii "p")) _ rfl rfl ⟨rfl, rfl⟩
    (eq_ok_of_value (by decide +kernel)) (by decide +kernel)
  exact absurd haligned.1 (by decide +kernel)

end Client

end CppRedis
