import CppRedis.Alignment

/-!
# What the user sees of a stream that was cut

`tcp_client_receive_handler` first parses the whole segment and then hands out the
replies that are available. The parser does not depend on how the stream is cut
(`feedAll_chunking`), but the handler does: where parsing fails it returns before the
second phase, and the replies that were complete before the malformed byte in the
same segment are not handed out.

* `passed_receiveAll`: what is passed to the reply callback, segment by segment.
* `segments_passed_iff`: two ways of cutting a stream pass the same replies, and all
  that are complete, if and only if in neither of them the segment on which parsing
  fails completes a reply before it.
-/

namespace CppRedis

open Text Procedure

/-! ## Reading segments -/

section Segments

variable {σ ι : Type} (connection : Lens σ RedisConnection)
  (receive : Option ι → Reply → EStateM Fault σ Unit) (disconnected : EStateM Fault σ Bool)

/-- Successful reads, up to and including the one on which parsing fails. Each comes
with the inputs of its reply callbacks. -/
def receiveAll : List (Bytes × List ι) → σ → σ
  | [], s => s
  | (data, inputs) :: segments, s =>
    let s' := after (tcpClientReceiveHandler connection receive disconnected (some data) inputs) s
    match ((connection.get s).builder.feed data).2 with
    | .ok () => receiveAll segments s'
    | .error _ => s'

/-- A reply callback that returns and leaves the parser of its connection alone, and
a disconnection handler that passes no reply. `passed` is the replies passed so far. -/
structure Listens (passed : σ → List Reply) : Prop where
  receive : ∀ input reply s, ∃ s', receive input reply s = .ok () s' ∧
    passed s' = passed s ++ [reply] ∧
    (connection.get s').builder = (connection.get s).builder ∧
    (connection.get s').replyCallback = (connection.get s).replyCallback
  disconnected : ∀ s, passed (after disconnected s) = passed s
  connection : ∀ c s, passed (connection.set c s) = passed s

end Segments

namespace ReplyBuilder

/-- The builder once the replies that are available were taken out of it. -/
def taken (b : ReplyBuilder) : ReplyBuilder :=
  { b with availableReplies := [] }

/-- The replies that the segments before a failing one complete. -/
def delivered : ReplyBuilder → List Bytes → List Reply
  | _, [] => []
  | b, data :: segments =>
    match b.feed data with
    | (b, .ok ()) => b.availableReplies ++ delivered b.taken segments
    | (_, .error _) => []

/-- The replies that the failing segment completes before it fails. -/
def lost : ReplyBuilder → List Bytes → List Reply
  | _, [] => []
  | b, data :: segments =>
    match b.feed data with
    | (b, .ok ()) => lost b.taken segments
    | (b, .error _) => b.availableReplies

theorem prepend_taken (b : ReplyBuilder) : b.taken.prepend b.availableReplies = b := by
  show { b with availableReplies := b.availableReplies ++ [] } = b
  rw [List.append_nil]

/-- The replies of the stream are those of the segments and those of the failing one.
By induction on the segments; the replies of the first one go in front. -/
theorem feedAll_availableReplies (segments : List Bytes) (b : ReplyBuilder)
    (hnone : b.availableReplies = []) :
    (b.feedAll segments).1.availableReplies = b.delivered segments ++ b.lost segments := by
  induction segments generalizing b with
  | nil => exact hnone
  | cons data segments ih =>
    unfold feedAll delivered lost
    rcases b.feed data with ⟨b', e | ⟨⟩⟩
    · rfl
    · dsimp only
      have hfeed := feedAll_prepend b'.availableReplies b'.taken segments
      rw [prepend_taken] at hfeed
      rw [hfeed]
      show b'.availableReplies ++ (b'.taken.feedAll segments).1.availableReplies = _
      rw [ih b'.taken rfl, List.append_assoc]

end ReplyBuilder

/-! ## What is passed -/

section Passed

variable {σ ι : Type} {connection : Lens σ RedisConnection}
  {receive : Option ι → Reply → EStateM Fault σ Unit} {disconnected : EStateM Fault σ Bool}
  {passed : σ → List Reply}

/-- All replies that are available are passed, in order. -/
theorem deliver_passed (h : Listens connection receive disconnected passed) {n : Nat}
    (inputs : List ι) {s : σ} (hset : (connection.get s).replyCallback = true)
    (hn : (connection.get s).builder.availableReplies.length = n) :
    ∃ s', deliver connection receive n inputs s = .ok () s' ∧
      passed s' = passed s ++ (connection.get s).builder.availableReplies ∧
      (connection.get s').builder = (connection.get s).builder.taken ∧
      (connection.get s').replyCallback = true := by
  induction n generalizing inputs s with
  | zero =>
    have hnone := List.eq_nil_of_length_eq_zero hn
    refine ⟨s, rfl, ?_, ?_, hset⟩
    · rw [hnone, List.append_nil]
    · unfold ReplyBuilder.taken
      rw [← hnone]
  | succ n ih =>
    obtain ⟨reply, rest, havailable⟩ := List.exists_cons_of_length_eq_add_one hn
    rw [RedisConnection.deliver_succ connection receive n inputs havailable hset]
    have hpopped : connection.get (connection.update (RedisConnection.popReply rest) s) =
        RedisConnection.popReply rest (connection.get s) := connection.get_set _ _
    have hsame : passed (connection.update (RedisConnection.popReply rest) s) = passed s :=
      h.connection _ s
    generalize connection.update (RedisConnection.popReply rest) s = s₁ at hpopped hsame ⊢
    obtain ⟨s₂, hreceive, hpassed, hbuilder, hset₂⟩ := h.receive inputs.head? reply s₁
    rw [hpopped] at hbuilder hset₂
    have hn₂ : (connection.get s₂).builder.availableReplies.length = n := by
      rw [hbuilder]
      rw [havailable] at hn
      exact Nat.succ.inj hn
    obtain ⟨s', hdeliver, hpassed', hbuilder', hset'⟩ :=
      ih inputs.tail (hset₂.trans hset) hn₂
    refine ⟨s', (bind_ok hreceive _).trans hdeliver, ?_, ?_, hset'⟩
    · rw [hpassed', hpassed, hsame, hbuilder, havailable, List.append_assoc]
      rfl
    · rw [hbuilder', hbuilder]
      rfl

/-- A segment that parses: its replies are passed, and the parser is left without them. -/
theorem segment_ok (h : Listens connection receive disconnected passed) {data : Bytes}
    (inputs : List ι) {s : σ} {b : ReplyBuilder} (hset : (connection.get s).replyCallback = true)
    (hfeed : (connection.get s).builder.feed data = (b, .ok ())) :
    let s' := after (tcpClientReceiveHandler connection receive disconnected (some data) inputs) s
    passed s' = passed s ++ b.availableReplies ∧ (connection.get s').builder = b.taken ∧
      (connection.get s').replyCallback = true := by
  have hparsed : connection.get (connection.set { connection.get s with builder := b } s) =
      { connection.get s with builder := b } := connection.get_set _ _
  have hset₁ : (connection.get
      (connection.set { connection.get s with builder := b } s)).replyCallback = true := by
    rw [hparsed]
    exact hset
  obtain ⟨s₁, hdeliver, hpassed, hbuilder, hset'⟩ := deliver_passed h inputs hset₁ rfl
  rw [hparsed] at hdeliver hpassed hbuilder
  rw [h.connection] at hpassed
  have hreceive : after (tcpClientReceiveHandler connection receive disconnected (some data) inputs) s =
      after (RedisConnection.readAgain connection) s₁ := by
    unfold tcpClientReceiveHandler
    dsimp only
    rw [after_get_bind, hfeed]
    dsimp only
    rw [after_modify_bind]
    exact after_bind_ok hdeliver _
  -- the next request changes the tcp client only
  have hread : ∃ c, after (RedisConnection.readAgain connection) s₁ = connection.set c s₁ ∧
      c.builder = (connection.get s₁).builder ∧
      c.replyCallback = (connection.get s₁).replyCallback := by
    unfold RedisConnection.readAgain
    rw [after_bind_pure]
    cases hc : (connection.get s₁).client.connected with
    | true =>
      have hok := connection.zoom_ok (RedisConnection.asyncRead_open hc)
      exact ⟨_, after_ok (catch_ok hok _), rfl, rfl⟩
    | false =>
      have hcaught := catch_error (connection.zoom_error (RedisConnection.asyncRead_closed hc))
        fun e => if e.isException then pure () else throw e
      exact ⟨connection.get s₁, after_ok hcaught, rfl, rfl⟩
  obtain ⟨c, hafter, hcbuilder, hccallback⟩ := hread
  dsimp only
  rw [hreceive, hafter, h.connection, connection.get_set]
  exact ⟨hpassed, hcbuilder.trans hbuilder, hccallback.trans hset'⟩

/-- A segment on which parsing fails: nothing is passed. -/
theorem segment_error (h : Listens connection receive disconnected passed) {data : Bytes}
    (inputs : List ι) {s : σ} {b : ReplyBuilder} {e : Fault}
    (hfeed : (connection.get s).builder.feed data = (b, .error e)) :
    passed (after (tcpClientReceiveHandler connection receive disconnected (some data) inputs) s) =
      passed s := by
  have hset : passed (connection.set { connection.get s with builder := b } s) = passed s :=
    h.connection _ s
  unfold tcpClientReceiveHandler
  dsimp only
  rw [after_get_bind, hfeed]
  dsimp only
  rw [after_modify_bind]
  cases e with
  | redisError what =>
    dsimp only
    unfold callDisconnectionHandler
    rw [after_get_bind]
    split
    · exact (h.disconnected _).trans hset
    · exact hset
  | _ => exact hset

/-- What is passed along the segments. By induction on the segments. -/
theorem passed_receiveAll (h : Listens connection receive disconnected passed)
    (segments : List (Bytes × List ι)) {s : σ} (hset : (connection.get s).replyCallback = true) :
    passed (receiveAll connection receive disconnected segments s) =
      passed s ++ (connection.get s).builder.delivered (segments.map Prod.fst) := by
  induction segments generalizing s with
  | nil => exact (List.append_nil _).symm
  | cons segment segments ih =>
    obtain ⟨data, inputs⟩ := segment
    unfold receiveAll
    rw [List.map_cons]
    unfold ReplyBuilder.delivered
    rcases hfeed : (connection.get s).builder.feed data with ⟨b, e | ⟨⟩⟩
    · dsimp only
      rw [List.append_nil]
      exact segment_error h inputs hfeed
    · dsimp only
      obtain ⟨hpassed, hbuilder, hset'⟩ := segment_ok h inputs hset hfeed
      rw [ih hset', hpassed, hbuilder, List.append_assoc]

/-- Two ways of cutting the stream of a new connection. They pass the same replies,
and all that are complete in the stream, if and only if the segment on which parsing
fails completes no reply in either of them. -/
theorem segments_passed_iff (h : Listens connection receive disconnected passed) {s : σ}
    (hset : (connection.get s).replyCallback = true) (hnew : (connection.get s).builder = {})
    (xs ys : List (Bytes × List ι))
    (hstream : (xs.map Prod.fst).flatten = (ys.map Prod.fst).flatten) :
    (passed (receiveAll connection receive disconnected xs s) =
        passed (receiveAll connection receive disconnected ys s) ∧
      passed (receiveAll connection receive disconnected xs s) =
        passed s ++ (ReplyBuilder.feed {} (xs.map Prod.fst).flatten).1.availableReplies) ↔
    ReplyBuilder.lost {} (xs.map Prod.fst) = [] ∧
      ReplyBuilder.lost {} (ys.map Prod.fst) = [] := by
  have hwhole : ∀ segments : List Bytes, segments.flatten = (xs.map Prod.fst).flatten →
      (ReplyBuilder.feed {} (xs.map Prod.fst).flatten).1.availableReplies =
        ReplyBuilder.delivered {} segments ++ ReplyBuilder.lost {} segments := by
    intro segments hsegments
    rw [← ReplyBuilder.feedAll_availableReplies segments {} rfl, ← hsegments]
    exact (congrArg (·.availableReplies)
      (ReplyBuilder.feedAll_flatten ReplyBuilder.settled_new segments).1).symm
  have hxs := hwhole _ rfl
  have hys := hwhole _ hstream.symm
  rw [passed_receiveAll h xs hset, passed_receiveAll h ys hset, hnew]
  constructor
  · rintro ⟨hsame, hall⟩
    have hsame := List.append_cancel_left hsame
    have hall := List.append_cancel_left hall
    refine ⟨List.self_eq_append_right.mp (hall.trans hxs), ?_⟩
    exact List.self_eq_append_right.mp (hsame.symm.trans (hall.trans hys))
  · rintro ⟨hx, hy⟩
    rw [hx, List.append_nil] at hxs
    rw [hy, List.append_nil] at hys
    rw [← hxs, ← hys]
    exact ⟨rfl, rfl⟩

end Passed

/-! ## The client -/

namespace Client

variable {κ : Type}

/-- The replies that were read are not touched. -/
def KeepsReceived (c c' : Client κ) : Prop :=
  c'.received = c.received

theorem clearCallbacks_received (c : Client κ) : c.clearCallbacks.received = c.received := by
  unfold clearCallbacks
  split <;> rfl

theorem tryCommit_keepsReceived : Follows KeepsReceived (tryCommit : EStateM Fault (Client κ) Unit) := by
  unfold tryCommit
  refine .tryCatch (.zoom fun c => rfl) fun e => ?_
  cases e with
  | redisError what => exact .bind (.modify clearCallbacks_received) fun _ => .throw _
  | _ => exact .throw _

theorem keepsReceived_of_follows {c c' : Client κ} (h : Relation.ReflTransGen KeepsReceived c c') :
    c'.received = c.received := by
  induction h with
  | refl => rfl
  | tail _ hstep ih => exact Eq.trans hstep ih

/-- No public function reads a reply. -/
theorem Call.received {c c' : Client κ} (h : Call c c') : c'.received = c.received := by
  cases h with
  | commit =>
    have hcommit : Follows KeepsReceived (Client.commit : EStateM Fault (Client κ) Unit) :=
      .bind .get fun _ => .ite tryCommit_keepsReceived (.pure _)
    exact keepsReceived_of_follows (hcommit c)
  | disconnect => exact clearCallbacks_received _
  | _ => rfl

theorem within_keepsReceived {notify : Notification → EStateM Fault (Client κ) Unit}
    (hn : ∀ n, Follows Call (notify n)) : (owner notify).Within KeepsReceived where
  session _ _ _ := rfl
  notify n := (hn n).mono fun _ _ h => .single h.received
  countAttempt _ := rfl
  lose _ := rfl
  resume := by
    have hreAuth : ∀ c : Client κ, c.reAuth.received = c.received := by
      intro c
      unfold reAuth
      split <;> rfl
    have hreSelect : ∀ c : Client κ, c.reSelect.received = c.received := by
      intro c
      unfold reSelect
      split <;> rfl
    have hresend : ∀ c : Client κ, c.resendFailedCommands.received = c.received := by
      intro c
      rw [resendFailedCommands_eq]
    exact .bind (.modify hreAuth) fun _ => .bind (.modify hreSelect) fun _ =>
      .bind (.modify hresend) fun _ => tryCommit_keepsReceived
  giveUp := .modify clearCallbacks_received

/-- The ways in which a commit ends: it is left to the reconnection, the buffer is
written, or it is thrown away with the queue. -/
theorem commit_cases (c : Client κ) :
    after Client.commit c = c ∨
      after Client.commit c = connection.update RedisConnection.flush c ∨
      after Client.commit c = c.discarded.clearCallbacks := by
  cases hr : c.reconnecting with
  | true =>
    refine .inl ?_
    unfold Client.commit
    rw [after_get_bind, hr]
    rfl
  | false =>
    cases hc : c.client.client.connected with
    | true => exact .inr (.inl (commit_open hr hc))
    | false => exact .inr (.inr (commit_closed hr hc))

/-- A call of the pipeline leaves the parser and the replies that were read alone. -/
theorem PipelineCall.undisturbed (c : Client κ) (call : PipelineCall κ) :
    (call.run c).client.builder = c.client.builder ∧
      (call.run c).client.replyCallback = c.client.replyCallback ∧
      (call.run c).received = c.received := by
  cases call with
  | commit =>
    show (after Client.commit c).client.builder = _ ∧
      (after Client.commit c).client.replyCallback = _ ∧ (after Client.commit c).received = _
    rcases commit_cases c with hcommit | hcommit | hcommit <;> rw [hcommit]
    · exact ⟨rfl, rfl, rfl⟩
    · exact ⟨rfl, rfl, rfl⟩
    · rw [clearCallbacks_client]
      exact ⟨rfl, rfl, clearCallbacks_received _⟩
  | _ => exact ⟨rfl, rfl, rfl⟩

theorem runCalls_undisturbed (calls : List (PipelineCall κ)) (c : Client κ) :
    (c.runCalls calls).client.builder = c.client.builder ∧
      (c.runCalls calls).client.replyCallback = c.client.replyCallback ∧
      (c.runCalls calls).received = c.received := by
  induction calls generalizing c with
  | nil => exact ⟨rfl, rfl, rfl⟩
  | cons call calls ih =>
    obtain ⟨hbuilder, hcallback, hreceived⟩ := call.undisturbed c
    obtain ⟨hbuilder', hcallback', hreceived'⟩ := ih (call.run c)
    exact ⟨hbuilder'.trans hbuilder, hcallback'.trans hcallback, hreceived'.trans hreceived⟩

/-- The handler of a client, whose reply callbacks may call the client. -/
theorem listens {notify : Notification → EStateM Fault (Client κ) Unit}
    (hn : ∀ n, Follows Call (notify n)) {others : Client κ → Client κ}
    (hothers : ∀ c, Relation.ReflTransGen Call c (others c)) (attempts : List Attempt) :
    Listens connection
      (fun calls : Option (List (PipelineCall κ)) => connectionReceiveHandler (calls.map calling))
      (connectionDisconnectionHandler notify others attempts) Client.received where
  receive := by
    intro calls reply c
    obtain ⟨calls', hreceive⟩ := connectionReceiveHandler_calling calls reply c
    obtain ⟨hbuilder, hcallback, hreceived⟩ := runCalls_undisturbed calls' (c.answerFront reply)
    exact ⟨_, hreceive, hreceived, hbuilder, hcallback⟩
  disconnected c := by
    refine keepsReceived_of_follows ?_
    refine (within_keepsReceived hn).connectionDisconnectionHandler_follows (fun _ => rfl)
      (fun _ => rfl) (fun c => ?_) attempts c
    exact Relation.ReflTransGen.mono (fun _ _ (h : Call _ _) => h.received) _ _ (hothers c)
  connection _ _ := rfl

/-- A client that was connected and has read nothing. -/
def listening : Client Nat where
  client := { client := { connected := true, reads := 1 }, replyCallback := true,
              disconnectionHandler := true }

/-- A reply and a malformed byte, cut behind the reply and inside of it. -/
theorem segments_passed_iff_inside :
    ((receiveAll connection
          (fun calls : Option (List (PipelineCall Nat)) => connectionReceiveHandler (calls.map calling))
          (connectionDisconnectionHandler silent id []) [(ascii "+OK\r\n", []), (ascii "!", [])]
          listening).received =
        (receiveAll connection
          (fun calls : Option (List (PipelineCall Nat)) => connectionReceiveHandler (calls.map calling))
          (connectionDisconnectionHandler silent id [])
          [(ascii "+O", []), (ascii "K\r\n", []), (ascii "!", [])] listening).received ∧
      (receiveAll connection
          (fun calls : Option (List (PipelineCall Nat)) => connectionReceiveHandler (calls.map calling))
          (connectionDisconnectionHandler silent id []) [(ascii "+OK\r\n", []), (ascii "!", [])]
          listening).received =
        (ReplyBuilder.feed {} (ascii "+OK\r\n!")).1.availableReplies) ↔
    ReplyBuilder.lost {} [ascii "+OK\r\n", ascii "!"] = [] ∧
      ReplyBuilder.lost {} [ascii "+O", ascii "K\r\n", ascii "!"] = [] :=
  segments_passed_iff (listens (fun _ => .pure ()) (fun _ => .refl) []) (s := listening) rfl rfl
    [(ascii "+OK\r\n", []), (ascii "!", [])]
    [(ascii "+O", []), (ascii "K\r\n", []), (ascii "!", [])] (by decide)

/-- Both in one segment: the reply that was complete before the malformed byte is not
passed, though it is where they come in two. -/
theorem not_segments_passed :
    let receiveAll := receiveAll connection
      (fun calls : Option (List (PipelineCall Nat)) => connectionReceiveHandler (calls.map calling))
      (connectionDisconnectionHandler silent id [])
    ¬ ∀ xs ys : List (Bytes × List (List (PipelineCall Nat))),
      (xs.map Prod.fst).flatten = (ys.map Prod.fst).flatten →
      (receiveAll xs listening).received = (receiveAll ys listening).received := by
  intro receiveAll h
  have hone := h [(ascii "+OK\r\n", []), (ascii "!", [])] [(ascii "+OK\r\n!", [])] (by decide)
  exact absurd (congrArg List.length hone) (by decide +kernel)

end Client

end CppRedis
