import CppRedis.Calls
import CppRedis.Lib.Backlog
import CppRedis.Stale

/-!
# What becomes of the requests of a sentinel

Whether or not the callbacks of a sentinel are in step with its connection, each request has one
fate: in the order in which they were sent, requests are answered, by calling the callback with the
reply, or dropped, and what was dropped is not called later.

* `Fated`: the steps that settle some requests. All functions move along these.
* `Served`: on an open connection, none is dropped.
* `requests_settled`: over any run; and a request is dropped only where the connection is lost,
  a commit fails or the parser gives up.
-/

namespace CppRedis

open Text Procedure

namespace SentinelClient

variable {κ : Type} {s s' s₁ s₂ s₃ : SentinelClient κ}

/-- The requests of a sentinel: those sent, those in `m_callbacks`, and those handled. -/
def backlog (s : SentinelClient κ) : Backlog (SentinelRequest κ) Reply :=
  ⟨s.pushed, s.callbacks, s.handled⟩

/-- The requests that were settled on the way from `s` to `s'`, and the callbacks called: those of
the requests that were answered. -/
structure Settles (s s' : SentinelClient κ) (fates : List (SentinelRequest κ × Option Reply)) :
    Prop where
  requests : Backlog.Settles s.backlog s'.backlog fates
  calls : s'.invoked = s.invoked ++ (fates.filterMap Backlog.answer?).filterMap callOf

/-- None of them was dropped. -/
def AllAnswered (fates : List (SentinelRequest κ × Option Reply)) : Prop :=
  ∀ fate ∈ fates, fate.2.isSome = true

/-- Some requests were settled. -/
def Fated (s s' : SentinelClient κ) : Prop :=
  ∃ fates, Settles s s' fates

/-- If the connection was open, it still is, and no request was dropped. -/
def Served (s s' : SentinelClient κ) : Prop :=
  s.client.client.connected = true →
    s'.client.client.connected = true ∧ ∃ fates, Settles s s' fates ∧ AllAnswered fates

theorem allAnswered_nil : AllAnswered ([] : List (SentinelRequest κ × Option Reply)) :=
  List.forall_mem_nil _

/-! ## Steps -/

/-- No request is concerned. -/
theorem Settles.of_eq (hpushed : s'.pushed = s.pushed) (hcallbacks : s'.callbacks = s.callbacks)
    (hhandled : s'.handled = s.handled) (hinvoked : s'.invoked = s.invoked) : Settles s s' [] := by
  have hsame : s'.backlog = s.backlog := by
    unfold backlog
    rw [hpushed, hcallbacks, hhandled]
  refine ⟨?_, hinvoked.trans (List.append_nil _).symm⟩
  rw [hsame]
  exact .refl _

theorem Settles.refl (s : SentinelClient κ) : Settles s s [] :=
  .of_eq rfl rfl rfl rfl

theorem Settles.trans {fates fates' : List (SentinelRequest κ × Option Reply)}
    (h : Settles s₁ s₂ fates) (h' : Settles s₂ s₃ fates') : Settles s₁ s₃ (fates ++ fates') := by
  refine ⟨h.requests.trans h'.requests, ?_⟩
  rw [h'.calls, h.calls, List.filterMap_append, List.filterMap_append, List.append_assoc]

/-- A request is sent. -/
theorem settles_send (redisCmd : Command) (callback : Option κ) (s : SentinelClient κ) :
    Settles s (s.send redisCmd callback) [] :=
  ⟨.push s.backlog ⟨redisCmd, callback⟩, (List.append_nil _).symm⟩

/-- All that wait are dropped, and not called. -/
theorem settles_dropped (hpushed : s'.pushed = s.pushed) (hcallbacks : s'.callbacks = [])
    (hhandled : s'.handled = s.handled) (hinvoked : s'.invoked = s.invoked) :
    Settles s s' (s.callbacks.map (·, none)) := by
  have hdropped : s'.backlog = { s.backlog with waiting := [] } := by
    unfold backlog
    rw [hpushed, hcallbacks, hhandled]
  constructor
  · rw [hdropped]
    exact .drop s.backlog
  · rw [List.filterMap_map]
    have hnone : s.callbacks.filterMap (Backlog.answer? ∘ (·, (none : Option Reply))) = [] :=
      List.filterMap_none _
    rw [hnone]
    exact hinvoked.trans (List.append_nil _).symm

theorem Fated.trans (h : Fated s₁ s₂) (h' : Fated s₂ s₃) : Fated s₁ s₃ := by
  obtain ⟨fates, hfates⟩ := h
  obtain ⟨fates', hfates'⟩ := h'
  exact ⟨_, hfates.trans hfates'⟩

theorem Served.refl (s : SentinelClient κ) : Served s s :=
  fun hc => ⟨hc, [], .refl _, allAnswered_nil⟩

theorem Served.trans (h : Served s₁ s₂) (h' : Served s₂ s₃) : Served s₁ s₃ := by
  intro hc
  obtain ⟨hc₂, fates, hfates, hall⟩ := h hc
  obtain ⟨hc₃, fates', hfates', hall'⟩ := h' hc₂
  exact ⟨hc₃, _, hfates.trans hfates', List.forall_mem_append.mpr ⟨hall, hall'⟩⟩

theorem fated_of_runs (h : Relation.ReflTransGen Fated s s') : Fated s s' := by
  induction h with
  | refl => exact ⟨[], .refl _⟩
  | tail _ hstep ih => exact ih.trans hstep

theorem served_of_runs (h : Relation.ReflTransGen Served s s') : Served s s' := by
  induction h with
  | refl => exact .refl s
  | tail _ hstep ih => exact ih.trans hstep

/-- A reply settles the first request, if there is one, and its callback is called with it. -/
theorem settles_answerFront (s : SentinelClient κ) (reply : Reply) :
    Settles s (s.answerFront reply) (s.callbacks.head?.map (·, some reply)).toList := by
  have hinvoked : (s.answerFront reply).invoked = s.invoked ++
      ((s.callbacks.head?.bind SentinelRequest.callback).map fun k => (k, reply)).toList := rfl
  have hbacklog : (s.answerFront reply).backlog = ⟨s.pushed, s.callbacks.tail,
    s.handled ++ (s.callbacks.head?.map fun request => (request, reply)).toList⟩ := rfl
  cases hcallbacks : s.callbacks with
  | nil =>
    rw [hcallbacks] at hinvoked hbacklog
    refine ⟨?_, hinvoked⟩
    have hsame : s.backlog = ⟨s.pushed, [], s.handled ++ []⟩ := by
      unfold backlog
      rw [hcallbacks, List.append_nil]
    rw [hbacklog, hsame]
    exact .refl _
  | cons request rest =>
    rw [hcallbacks] at hinvoked hbacklog
    refine ⟨?_, hinvoked.trans (congrArg _ (filterMap_singleton callOf (request, reply)).symm)⟩
    rw [hbacklog]
    exact .answer (b := s.backlog) hcallbacks reply

theorem settles_commit_open (hc : s.client.client.connected = true) :
    Settles s (after commit s) [] := by
  rw [commit_open hc]
  exact .of_eq rfl rfl rfl rfl

theorem settles_commit_closed (hc : s.client.client.connected = false) :
    Settles s (after commit s) (s.callbacks.map (·, none)) := by
  rw [commit_closed hc]
  exact settles_dropped rfl rfl rfl rfl

theorem Call.fated (call : Call κ) (s : SentinelClient κ) : Fated s (call.run s) := by
  cases call with
  | send redisCmd callback => exact ⟨_, settles_send redisCmd callback s⟩
  | commit =>
    show Fated s (after SentinelClient.commit s)
    cases hc : s.client.client.connected with
    | true => exact ⟨_, settles_commit_open hc⟩
    | false => exact ⟨_, settles_commit_closed hc⟩

/-- On an open connection, no commit fails. -/
theorem Call.served (call : Call κ) (s : SentinelClient κ) : Served s (call.run s) := by
  intro hc
  refine ⟨(call.calm s).connected.trans hc, [], ?_, allAnswered_nil⟩
  cases call with
  | send redisCmd callback => exact settles_send redisCmd callback s
  | commit => exact settles_commit_open hc

theorem runCalls_fated (calls : List (Call κ)) (s : SentinelClient κ) : Fated s (s.runCalls calls) := by
  induction calls generalizing s with
  | nil => exact ⟨[], .refl _⟩
  | cons call calls ih => exact (call.fated s).trans (ih _)

theorem runCalls_served (calls : List (Call κ)) (s : SentinelClient κ) :
    Served s (s.runCalls calls) := by
  induction calls generalizing s with
  | nil => exact .refl s
  | cons call calls ih => exact (call.served s).trans (ih _)

/-! ## Procedures -/

theorem fated_session (r : RedisConnection) (s : SentinelClient κ) : Fated s (connection.set r s) :=
  ⟨[], .of_eq rfl rfl rfl rfl⟩

/-- A change of the connection that does not close it. -/
theorem served_session {r : RedisConnection}
    (h : s.client.client.connected = true → r.client.connected = true) :
    Served s (connection.set r s) :=
  fun hc => ⟨h hc, [], .of_eq rfl rfl rfl rfl, allAnswered_nil⟩

theorem served_answerFront (s : SentinelClient κ) (reply : Reply) :
    Served s (s.answerFront reply) := by
  refine fun hc => ⟨hc, _, settles_answerFront s reply, ?_⟩
  intro fate hfate
  obtain ⟨request, -, rfl⟩ := Option.map_eq_some_iff.mp (Option.mem_toList.mp hfate)
  rfl

/-- A reply, and the calls that its callback makes. -/
theorem connectionReceiveHandler_follows {R : SentinelClient κ → SentinelClient κ → Prop}
    (hanswer : ∀ s reply, R s (answerFront reply s)) (hcount : ∀ s, R s (countDown s))
    {input : Option (EStateM Fault (SentinelClient κ) Unit)} (hinput : ∀ p ∈ input, Follows R p)
    (reply : Reply) : Follows R (connectionReceiveHandler input reply) := by
  intro s
  refine .head (hanswer s reply) ?_
  refine (Follows.bind (.ite ?_ (.pure _)) fun _ => .modify hcount) (s.answerFront reply)
  cases input with
  | none => exact .pure _
  | some p => exact hinput p rfl

theorem connectionDisconnectHandler_fated (calls : List (Call κ)) :
    Follows Fated (connectionDisconnectHandler (calling calls)) := by
  unfold connectionDisconnectHandler callDisconnectHandler
  refine .bind (.modify fun s => ⟨_, settles_dropped rfl rfl rfl rfl⟩) fun _ =>
    .bind ?_ fun _ => .pure _
  exact .bind .get fun _ => .ite (.modify (runCalls_fated calls)) (.pure _)

theorem handlersWithin_fated :
    HandlersWithin (connection : Lens (SentinelClient κ) RedisConnection) Fated where
  parse s _ := fated_session _ s
  asyncRead := .zoom fun s => fated_session _ s
  clear s := fated_session _ s

theorem handlersWithin_served :
    HandlersWithin (connection : Lens (SentinelClient κ) RedisConnection) Served where
  parse _ _ := served_session id
  asyncRead := .zoom fun s => served_session fun hc => by
    have hread : TcpClient.asyncRead s.client.client = .ok () _ := if_pos hc
    rw [RedisConnection.tcp.after_zoom]
    show (after TcpClient.asyncRead s.client.client).connected = true
    rw [after_ok hread]
    exact hc
  clear _ := served_session id

/-- A read. -/
theorem receive_fated (result : ReadResult) (callbacks : List (List (Call κ))) (calls : List (Call κ)) :
    Follows Fated (receive result (callbacks.map calling) (calling calls)) := by
  refine handlersWithin_fated.tcpClientReceiveHandler_follows (fun input hinput reply => ?_)
    (connectionDisconnectHandler_fated calls) result
  refine connectionReceiveHandler_follows (fun s reply => ⟨_, settles_answerFront s reply⟩)
    (fun s => ⟨[], .of_eq rfl rfl rfl rfl⟩) (fun p hp => ?_) reply
  obtain ⟨calls', -, rfl⟩ := List.mem_map.mp (hinput p hp)
  exact .modify (runCalls_fated calls')

/-- A read of bytes in which the parser finds no fault. -/
theorem receive_served {data : Bytes} {builder : ReplyBuilder} (callbacks : List (List (Call κ)))
    (user : EStateM Fault (SentinelClient κ) Unit)
    (hfeed : s.client.builder.feed data = (builder, .ok ())) :
    Served s (after (receive (some data) (callbacks.map calling) user) s) := by
  have hreceive (input : Option (EStateM Fault (SentinelClient κ) Unit))
      (hinput : ∀ p ∈ input, p ∈ callbacks.map calling) (reply : Reply) :
      Follows Served (connectionReceiveHandler input reply) := by
    refine connectionReceiveHandler_follows served_answerFront
      (fun s hc => ⟨hc, [], .of_eq rfl rfl rfl rfl, allAnswered_nil⟩) (fun p hp => ?_) reply
    obtain ⟨calls, -, rfl⟩ := List.mem_map.mp (hinput p hp)
    exact .modify (runCalls_served calls)
  have hfeed' : (connection.get s).builder.feed data = (builder, .ok ()) := hfeed
  unfold receive tcpClientReceiveHandler
  dsimp only
  rw [after_get_bind, hfeed']
  dsimp only
  rw [after_modify_bind]
  refine Served.trans (served_session (r := { s.client with builder := builder }) id)
    (served_of_runs ?_)
  refine (Follows.bind (handlersWithin_served.deliver_follows hreceive _) fun _ => ?_) _
  exact .bind (.tryCatch handlersWithin_served.asyncRead fun _ => .ite (.pure _) (.throw _))
    fun _ => .pure _

/-! ### Connecting -/

/-- Connecting concerns no request, nor does the `disconnect` of the loop. -/
theorem trySentinels_settles (sentinels : List SentinelDef) (reachable : List Bool) :
    Follows (fun s s' : SentinelClient κ => Settles s s' []) (trySentinels sentinels reachable) := by
  induction sentinels generalizing reachable with
  | nil => exact .pure _
  | cons it rest ih =>
    rw [trySentinels]
    refine .bind (.tryCatch (.zoom fun s => .of_eq rfl rfl rfl rfl) fun e => ?_) fun _ => ?_
    · cases e with
      | redisError what => exact .pure _
      | _ => exact .throw _
    · exact .bind .get fun _ =>
        .ite (.pure _) (.bind (.modify fun s => .of_eq rfl rfl rfl rfl) fun _ => ih _)

theorem connectSentinel_settles (disconnectHandler : Bool) (reachable : List Bool)
    (s : SentinelClient κ) : Settles s (after (connectSentinel disconnectHandler reachable) s) [] := by
  have hfollows : Follows (fun s s' : SentinelClient κ => Settles s s' [])
      (connectSentinel disconnectHandler reachable) := by
    unfold connectSentinel
    refine .bind .get fun _ => .ite (.bind (.throw _) fun _ => ?_) ?_
    all_goals
      refine .bind .get fun _ => .bind (trySentinels_settles _ _) fun _ => ?_
      exact .ite (.bind (.throw _) fun _ => .modify fun s => .of_eq rfl rfl rfl rfl)
        (.modify fun s => .of_eq rfl rfl rfl rfl)
  have hruns := hfollows s
  generalize after (connectSentinel disconnectHandler reachable) s = s' at hruns
  induction hruns with
  | refl => exact .refl _
  | tail _ hstep ih => exact ih.trans hstep

/-! ## Runs -/

namespace World

/-- A request may be dropped: the connection is lost, a commit fails, or the parser finds a
fault in a chunk. -/
def Drops (w : World κ) : Event κ → Prop
  | .drop _ => True
  | .call .commit => w.sentinel.isConnected = false
  | .chunk size _ => (w.sentinel.client.builder.feed (w.inFlight.take size)).2 ≠ .ok ()
  | _ => False

theorem step_fated (w : World κ) (e : Event κ) : Fated w.sentinel (w.step e).sentinel := by
  have hdialled {s : SentinelClient κ} (h : Dialled w.sentinel s) : Fated w.sentinel s :=
    ⟨[], .of_eq h.pushed h.callbacks h.handled h.invoked⟩
  cases e with
  | call call => exact call.fated w.sentinel
  | connect host port disconnectHandler timeoutMsecs accepted =>
    exact hdialled (connect_dialled host port disconnectHandler timeoutMsecs accepted w.sentinel)
  | connectSentinel disconnectHandler reachable =>
    exact ⟨[], connectSentinel_settles disconnectHandler reachable w.sentinel⟩
  | chunk size callbacks =>
    exact (fated_session _ w.sentinel).trans (fated_of_runs (receive_fated _ callbacks [] _))
  | drop calls =>
    refine (fated_session w.sentinel.client.lose w.sentinel).trans (fated_of_runs ?_)
    exact handlersWithin_fated.tcpClientDisconnectionHandler_follows
      (connectionDisconnectHandler_fated calls) _
  | _ => exact ⟨[], .of_eq rfl rfl rfl rfl⟩

/-- A step that drops nothing. -/
theorem step_answered {w : World κ} {e : Event κ} (he : w.Enabled e) (hkept : ¬ w.Drops e) :
    ∃ fates, Settles w.sentinel (w.step e).sentinel fates ∧ AllAnswered fates := by
  have hnone {s : SentinelClient κ} (h : Settles w.sentinel s []) :
      ∃ fates, Settles w.sentinel s fates ∧ AllAnswered fates :=
    ⟨[], h, allAnswered_nil⟩
  cases e with
  | call call =>
    cases call with
    | send redisCmd callback => exact hnone (settles_send redisCmd callback w.sentinel)
    | commit => exact hnone (settles_commit_open (Bool.not_eq_false _ ▸ hkept))
  | connect host port disconnectHandler timeoutMsecs accepted =>
    have hd := connect_dialled host port disconnectHandler timeoutMsecs accepted w.sentinel
    exact hnone (.of_eq hd.pushed hd.callbacks hd.handled hd.invoked)
  | connectSentinel disconnectHandler reachable =>
    exact hnone (connectSentinel_settles disconnectHandler reachable w.sentinel)
  | chunk size callbacks =>
    rcases hfeed : w.sentinel.client.builder.feed (w.inFlight.take size) with ⟨builder, outcome⟩
    have hok : outcome = .ok () := by
      refine Classical.not_not.mp fun hne => hkept ?_
      show (w.sentinel.client.builder.feed (w.inFlight.take size)).2 ≠ .ok ()
      rw [hfeed]
      exact hne
    subst hok
    have hserved : Served w.sentinel (w.step (.chunk size callbacks)).sentinel :=
      (served_session (r := RedisConnection.completeRead w.sentinel.client) id).trans
        (receive_served callbacks _ hfeed)
    exact (hserved he.1).2
  | drop calls => exact absurd trivial hkept
  | _ => exact hnone (.of_eq rfl rfl rfl rfl)

/-- In every run, whether or not the callbacks are in step with the replies: the requests that were
sent are those that were settled, in their order, and then those that wait. The ones handled are
those that were settled with a reply, in the same order, and the callbacks called are theirs, each
with the reply. What has become of a request is final; and a step drops none, unless the connection
is lost, a commit fails or the parser finds a fault. -/
theorem requests_settled (what : String) {events : List (Event κ)} {e : Event κ}
    (h : machine.Possible (new what) (events ++ [e])) :
    let w := machine.run (new what) events
    let w' := machine.run (new what) (events ++ [e])
    ∃ settled now : List (SentinelRequest κ × Option Reply),
      w.sentinel.pushed = settled.map Prod.fst ++ w.sentinel.callbacks ∧
      w.sentinel.handled = settled.filterMap Backlog.answer? ∧
      w.sentinel.invoked = w.sentinel.handled.filterMap callOf ∧
      w'.sentinel.pushed = (settled ++ now).map Prod.fst ++ w'.sentinel.callbacks ∧
      w'.sentinel.handled = (settled ++ now).filterMap Backlog.answer? ∧
      w'.sentinel.invoked = w'.sentinel.handled.filterMap callOf ∧
      (¬ w.Drops e → AllAnswered now) := by
  obtain ⟨hevents, he, -⟩ := Machine.possible_append.mp h
  obtain ⟨settled, hsettled⟩ : Fated (new what : World κ).sentinel
      (machine.run (new what) events).sentinel :=
    hevents.invariant (I := fun w => Fated (new what : World κ).sentinel w.sentinel)
      (fun w e hw _ => hw.trans (step_fated w e)) ⟨[], Settles.refl _⟩
  dsimp only
  rw [Machine.run_append]
  generalize machine.run (new what) events = w at he hsettled
  obtain ⟨now, hnow, hanswered⟩ : ∃ now, Settles w.sentinel (w.step e).sentinel now ∧
      (¬ w.Drops e → AllAnswered now) := by
    by_cases hdrops : w.Drops e
    · obtain ⟨now, hnow⟩ := step_fated w e
      exact ⟨now, hnow, fun hkept => absurd hdrops hkept⟩
    · obtain ⟨now, hnow, hall⟩ := step_answered he hdrops
      exact ⟨now, hnow, fun _ => hall⟩
  have hafter := hsettled.trans hnow
  obtain ⟨hpushed, hhandled⟩ := hsettled.requests.all
  obtain ⟨hpushed', hhandled'⟩ := hafter.requests.all
  have hcalls : w.sentinel.invoked = w.sentinel.handled.filterMap callOf :=
    hsettled.calls.trans (congrArg (List.filterMap callOf) hhandled.symm)
  have hcalls' : (w.step e).sentinel.invoked = (w.step e).sentinel.handled.filterMap callOf :=
    hafter.calls.trans (congrArg (List.filterMap callOf) hhandled'.symm)
  exact ⟨settled, now, hpushed, hhandled, hcalls, hpushed', hhandled', hcalls', hanswered⟩

/-- A request is left behind by a `disconnect`, and the reply to the next one settles it. -/
def leftBehind : List (Event Nat) :=
  [.connect (ascii "s1") 26379 true 0 true, .call (.send [ascii "PING"] (some 0)), .call .commit,
    .disconnect, .connect (ascii "s1") 26379 true 0 true, .call (.send [ascii "PING"] (some 1)),
    .call .commit, .answer .nullBulk]

theorem requests_settled_leftBehind :
    let w := machine.run (new "") leftBehind
    let w' := machine.run (new "") (leftBehind ++ [.chunk 5 []])
    ∃ settled now : List (SentinelRequest Nat × Option Reply),
      w.sentinel.pushed = settled.map Prod.fst ++ w.sentinel.callbacks ∧
      w.sentinel.handled = settled.filterMap Backlog.answer? ∧
      w.sentinel.invoked = w.sentinel.handled.filterMap callOf ∧
      w'.sentinel.pushed = (settled ++ now).map Prod.fst ++ w'.sentinel.callbacks ∧
      w'.sentinel.handled = (settled ++ now).filterMap Backlog.answer? ∧
      w'.sentinel.invoked = w'.sentinel.handled.filterMap callOf ∧
      (¬ w.Drops (.chunk 5 []) → AllAnswered now) :=
  requests_settled "" <| .intro trivial <| .intro trivial <| .intro trivial <| .intro trivial <|
    .intro trivial <| .intro trivial <| .intro trivial <|
    .intro ⟨by decide +kernel, trivial, by decide +kernel⟩ <|
    .intro ⟨by decide +kernel, by decide +kernel⟩ trivial

end World

end SentinelClient

end CppRedis
