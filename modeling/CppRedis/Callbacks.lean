import CppRedis.Calls
import CppRedis.Resend
import CppRedis.Lib.Machine
import Mathlib.Data.Multiset.AddSub

/-!
# Callbacks are neither lost nor called twice

An entry of `m_commands` is popped when a reply comes for it, or when a failure
thread calls it back; until then it is in the queue or in a failure thread. When it
is popped its callback is called. This module follows the entries through every run
of a client: calls, replies, lost connections with any attempts to connect again,
steps of the failure threads, and callbacks that call the client themselves.

* `Move`: the ways in which a client moves its entries, one for each place of the
  source that touches them. Each keeps the accounts (`Accounted.move`).
* `receive_moves`, `drop_moves`, `failureStep_moves`: every event is made of moves.
* `callbacks_accounted`: in every state of every run, the callbacks ever pushed are
  those called, those in the queue and those in failure threads.
-/

namespace CppRedis

open Text Procedure

namespace Client

variable {κ : Type}

/-! ## The accounts -/

/-- The callbacks of some entries, as a multiset. An entry without a callback has
none to lose. -/
def callbacksOf (requests : List (CommandRequest κ)) : Multiset (Callback κ) :=
  requests.filterMap CommandRequest.callback

/-- The entries that were handled, in the queue, or in a failure thread. -/
def accountedFor (c : Client κ) : List (CommandRequest κ) :=
  c.handled.map Prod.fst ++ (c.commands ++ c.failureThreads.flatten)

/-- The entries pushed are those accounted for, each one that was handled was handled
with a reply of the server or with the error that a failure thread makes up, and the
callbacks called are those of the entries that were handled. -/
structure Accounted (c : Client κ) : Prop where
  entries : c.pushed.Perm c.accountedFor
  replies : ∀ entry ∈ c.handled, entry.2 ∈ c.received ∨ entry.2 = networkFailure
  calls : c.invoked = c.handled.filterMap callOf

/-! ## Moves -/

/-- A move: the session and the index change, an entry is pushed, handled or moved
to a failure thread, or the queue is sent again. -/
inductive Move (c : Client κ) : Client κ → Prop
  | session (s : Session) : Move c (session.set s c)
  | index (index : Int) : Move c { c with databaseIndex := index }
  | push (request : CommandRequest κ) : Move c (c.push request)
  | clearCallbacks : Move c c.clearCallbacks
  | resendFailedCommands : Move c c.resendFailedCommands
  | answerFront (reply : Reply) : Move c (c.answerFront reply)
  | failFront (i : Nat) (request : CommandRequest κ) (rest : List (CommandRequest κ))
      (h : c.failureThreads[i]? = some (request :: rest)) : Move c (c.failFront i request rest)
  | countDown : Move c c.countDown

/-- A push adds one entry to what was pushed and to the queue. -/
theorem Accounted.push {c : Client κ} (h : Accounted c) (request : CommandRequest κ) :
    Accounted (c.push request) where
  entries := by
    show (c.pushed ++ [request]).Perm
      (c.handled.map Prod.fst ++ (c.commands ++ [request] ++ c.failureThreads.flatten))
    refine (h.entries.append_right [request]).trans ?_
    unfold accountedFor
    rw [List.append_assoc, List.append_assoc, List.append_assoc]
    exact ((List.perm_append_comm.append_left c.commands).append_left _)
  replies := h.replies
  calls := h.calls

theorem Accounted.clearCallbacks {c : Client κ} (h : Accounted c) : Accounted c.clearCallbacks := by
  unfold Client.clearCallbacks
  split
  · exact h
  · refine ⟨?_, h.replies, h.calls⟩
    show c.pushed.Perm
      (c.handled.map Prod.fst ++ ([] ++ (c.failureThreads ++ [c.commands]).flatten))
    refine h.entries.trans ?_
    rw [List.flatten_append, List.flatten_singleton, List.nil_append]
    exact (List.perm_append_comm).append_left _

/-- Sending the queue again leaves it as it is. -/
theorem Accounted.resendFailedCommands {c : Client κ} (h : Accounted c) :
    Accounted c.resendFailedCommands := by
  rw [resendFailedCommands_eq]
  exact ⟨h.entries, h.replies, h.calls⟩

/-- A reply moves the first entry of the queue, if there is one, to those handled. -/
theorem Accounted.answerFront {c : Client κ} (h : Accounted c) (reply : Reply) :
    Accounted (c.answerFront reply) where
  entries := by
    refine h.entries.trans ?_
    unfold accountedFor Client.answerFront Client.record Client.popCommand
    cases c.commands with
    | nil => simp
    | cons request rest => simp
  calls := by
    unfold Client.answerFront Client.record Client.popCommand
    dsimp only
    rw [List.filterMap_append, ← h.calls]
    cases c.commands with
    | nil => rfl
    | cons request rest => exact congrArg _ (filterMap_singleton callOf (request, reply)).symm
  replies := by
    intro entry hentry
    unfold Client.answerFront Client.record Client.popCommand at hentry ⊢
    dsimp only at hentry ⊢
    rcases List.mem_append.mp hentry with hold | hnew
    · rcases h.replies entry hold with hreceived | hfailed
      · exact .inl (List.mem_append_left _ hreceived)
      · exact .inr hfailed
    · cases hcommands : c.commands with
      | nil => simp [hcommands] at hnew
      | cons request rest =>
        rw [hcommands] at hnew
        rw [List.mem_singleton.mp hnew]
        exact .inl (List.mem_append_right _ (List.mem_singleton.mpr rfl))

/-- Taking the first entry out of one list of many takes it out of all of them. -/
theorem flatten_set_perm {α : Type} {xss : List (List α)} {i : Nat} {x : α} {xs : List α}
    (h : xss[i]? = some (x :: xs)) : xss.flatten.Perm (x :: (xss.set i xs).flatten) := by
  induction xss generalizing i with
  | nil => cases h
  | cons ys xss ih =>
    cases i with
    | zero =>
      rw [List.getElem?_cons_zero] at h
      cases h
      exact .refl _
    | succ i =>
      rw [List.getElem?_cons_succ] at h
      rw [List.set_cons_succ, List.flatten_cons, List.flatten_cons]
      exact ((ih h).append_left ys).trans List.perm_middle

/-- A failure thread moves its first entry to those handled. -/
theorem Accounted.failFront {c : Client κ} (h : Accounted c) {i : Nat}
    {request : CommandRequest κ} {rest : List (CommandRequest κ)}
    (hi : c.failureThreads[i]? = some (request :: rest)) :
    Accounted (c.failFront i request rest) where
  calls := by
    show c.invoked ++ _ = (c.handled ++ [(request, networkFailure)]).filterMap callOf
    rw [List.filterMap_append, ← h.calls]
    exact congrArg _ (filterMap_singleton callOf (request, networkFailure)).symm
  entries := by
    refine h.entries.trans ?_
    show (c.handled.map Prod.fst ++ (c.commands ++ c.failureThreads.flatten)).Perm
      ((c.handled ++ [(request, networkFailure)]).map Prod.fst ++
        (c.commands ++ (c.failureThreads.set i rest).flatten))
    rw [List.map_append, List.append_assoc]
    refine .append_left _ ?_
    exact ((flatten_set_perm hi).append_left c.commands).trans List.perm_middle
  replies := by
    intro entry hentry
    rcases List.mem_append.mp hentry with hold | hnew
    · exact h.replies entry hold
    · rw [List.mem_singleton.mp hnew]
      exact .inr rfl

/-- Every move keeps the accounts. -/
theorem Accounted.move {c c' : Client κ} (h : Accounted c) (hm : Move c c') : Accounted c' := by
  cases hm with
  | session s => exact ⟨h.entries, h.replies, h.calls⟩
  | index index => exact ⟨h.entries, h.replies, h.calls⟩
  | push request => exact h.push request
  | clearCallbacks => exact h.clearCallbacks
  | resendFailedCommands => exact h.resendFailedCommands
  | answerFront reply => exact h.answerFront reply
  | failFront i request rest hi => exact h.failFront hi
  | countDown => exact ⟨h.entries, h.replies, h.calls⟩

/-! ## What a call moves -/

theorem tryCommit_moves : Follows Move (tryCommit : EStateM Fault (Client κ) Unit) := by
  unfold tryCommit
  refine .tryCatch (.zoom fun c => ?_) fun e => ?_
  · exact .session (Session.connection.set _ c.toSession)
  · cases e with
    | redisError what => exact .bind (.modify fun _ => .clearCallbacks) fun _ => .throw _
    | _ => exact .throw _

theorem commit_moves : Follows Move (commit : EStateM Fault (Client κ) Unit) :=
  .bind .get fun _ => .ite tryCommit_moves (.pure _)

theorem unprotectedAuth_moves (password : Bytes) (callback : Option (Callback κ)) (c : Client κ) :
    Relation.ReflTransGen Move c (c.unprotectedAuth password callback) :=
  .tail (.single (.session { c.toSession with password := password })) (.push _)

theorem unprotectedSelect_moves (index : Int) (callback : Option (Callback κ)) (c : Client κ) :
    Relation.ReflTransGen Move c (c.unprotectedSelect index callback) :=
  .tail (.single (.index index)) (.push _)

/-- A public function is made of moves. -/
theorem Call.moves {c c' : Client κ} (h : Call c c') : Relation.ReflTransGen Move c c' := by
  cases h with
  | session h => exact .single (.session _)
  | send redisCmd callback => exact .single (.push _)
  | auth password callback => exact unprotectedAuth_moves password _ c
  | select index callback => exact unprotectedSelect_moves index _ c
  | commit => exact commit_moves c
  | disconnect =>
    exact .tail (.single (.session (Session.connection.set c.client.disconnect c.toSession)))
      .clearCallbacks

theorem resume_moves : Follows Move (resume : EStateM Fault (Client κ) Unit) := by
  unfold resume
  have hreAuth : Follows Move (modify reAuth : EStateM Fault (Client κ) PUnit) := by
    intro c
    rw [after_modify]
    unfold reAuth
    split
    · exact .refl
    · exact unprotectedAuth_moves c.password _ c
  have hreSelect : Follows Move (modify reSelect : EStateM Fault (Client κ) PUnit) := by
    intro c
    rw [after_modify]
    unfold reSelect
    split
    · exact .refl
    · exact unprotectedSelect_moves c.databaseIndex _ c
  exact .bind hreAuth fun _ => .bind hreSelect fun _ =>
    .bind (.modify fun _ => .resendFailedCommands) fun _ => tryCommit_moves

/-! ## Events -/

/-- What a callback of the user does this time, with what other threads do in the
meantime: a procedure that is made of moves and may throw. -/
structure Program (κ : Type) where
  run : EStateM Fault (Client κ) Unit
  moves : Follows Move run

/-- What happens to a client: a public call, a read, a lost connection, or a turn
of a failure thread. Their callbacks, and the other threads that may get in between,
are programs. -/
inductive Event (κ : Type)
  | send (redisCmd : Command) (callback : Option κ)
  | auth (password : Bytes) (callback : Option κ)
  | select (index : Int) (callback : Option κ)
  | commit
  | disconnect
  | connect (p : Session.ConnectParams) (accepted : Bool)
  | connectByName (name : Bytes) (p : Session.ConnectParams) (lookup : Lookup) (accepted : Bool)
  | cancelReconnect
  | addSentinel (sentinel : SentinelDef)
  | clearSentinels
  | receive (result : ReadResult) (users : List (Program κ)) (others : Program κ)
      (attempts : List Attempt)
  | drop (before others : Program κ) (attempts : List Attempt)
  | failureStep (i : Nat) (user : Program κ)

variable (notify : Notification → Program κ)

/-- The program of the connect callback. -/
def told (n : Notification) : EStateM Fault (Client κ) Unit :=
  (notify n).run

def Event.run (c : Client κ) : Event κ → Client κ
  | .send redisCmd callback => c.send redisCmd callback
  | .auth password callback => c.auth password callback
  | .select index callback => c.select index callback
  | .commit => after Client.commit c
  | .disconnect => c.disconnect
  | .connect p accepted => after (Client.connect (told notify) p accepted) c
  | .connectByName name p lookup accepted =>
    after (Client.connectByName (told notify) name p lookup accepted) c
  | .cancelReconnect => session.update Session.cancelReconnect c
  | .addSentinel sentinel => session.update (Session.addSentinel sentinel) c
  | .clearSentinels => session.update Session.clearSentinels c
  | .receive result users others attempts =>
    after (Client.receive (told notify) result (users.map Program.run) (after others.run) attempts) c
  | .drop before others attempts =>
    after (Client.drop (told notify) (after before.run) (after others.run) attempts) c
  | .failureStep i user => after (Client.failureStep i user.run) c

/-- A client and what happens to it, in any order. -/
def machine : Machine (Client κ) (Event κ) where
  enabled _ _ := True
  step := Event.run notify

/-- The session of a client may change in any way. -/
theorem handlersWithin_moves : HandlersWithin (connection : Lens (Client κ) _) Move where
  parse c builder := .session (Session.connection.set { c.client with builder := builder } c.toSession)
  asyncRead := .zoom fun c => .session (Session.connection.set _ c.toSession)
  clear c := .session (Session.connection.set c.client.clear c.toSession)

theorem within_moves : (owner (told notify)).Within Move where
  session _ t _ := .session t
  notify n := (notify n).moves
  countAttempt c := .session c.toSession.countAttempt
  lose c := .session c.toSession.lose
  resume := resume_moves
  giveUp := .modify fun _ => .clearCallbacks

theorem connectionDisconnectionHandler_moves (others : Program κ) (attempts : List Attempt) :
    Follows Move (connectionDisconnectionHandler (told notify) (after others.run) attempts) :=
  (within_moves notify).connectionDisconnectionHandler_follows
    (fun c => .session c.toSession.beginReconnection) (fun c => .session c.toSession.endReconnection)
    others.moves attempts

/-- A read, the callbacks for its replies and the reconnection that a malformed
reply may start are made of moves. -/
theorem receive_moves (result : ReadResult) (users : List (Program κ)) (others : Program κ)
    (attempts : List Attempt) :
    Follows Move (receive (told notify) result (users.map Program.run) (after others.run)
      attempts) := by
  refine handlersWithin_moves.tcpClientReceiveHandler_follows (fun input hinput reply => ?_)
    (connectionDisconnectionHandler_moves notify others attempts) result
  refine connectionReceiveHandler_follows (fun _ => .answerFront) (fun _ => .countDown)
    (fun p hp => ?_) reply
  obtain ⟨user, -, rfl⟩ := List.mem_map.mp (hinput p hp)
  exact user.moves

/-- So is a lost connection, with all attempts to connect again. -/
theorem drop_moves (before others : Program κ) (attempts : List Attempt) :
    Follows Move (drop (told notify) (after before.run) (after others.run) attempts) := by
  unfold drop
  refine .bind (.modify fun c => ?_) fun _ => .bind before.moves fun _ => ?_
  · exact .session (Session.connection.set c.client.lose c.toSession)
  · exact handlersWithin_moves.tcpClientDisconnectionHandler_follows
      (connectionDisconnectionHandler_moves notify others attempts)

/-- So is a turn of a failure thread. -/
theorem failureStep_moves (i : Nat) (user : Program κ) : Follows Move (failureStep i user.run) := by
  intro c
  unfold failureStep
  rw [after_get_bind]
  split
  · next request rest hi =>
    refine .head (.failFront i request rest hi) ?_
    exact (Follows.bind (react_follows _ user.moves) fun _ => .modify fun _ => .countDown)
      (c.failFront i request rest)
  · exact .refl

/-- Every event is made of moves. -/
theorem Event.moves (c : Client κ) (e : Event κ) :
    Relation.ReflTransGen Move c (e.run notify c) := by
  have hcalls : (owner (told notify)).Calls Move := (within_moves notify).toCalls
  cases e with
  | send redisCmd callback => exact (Call.send redisCmd callback).moves
  | auth password callback => exact (Call.auth password callback).moves
  | select index callback => exact (Call.select index callback).moves
  | commit => exact commit_moves c
  | disconnect => exact Call.disconnect.moves
  | connect p accepted => exact hcalls.connect_follows p accepted c
  | connectByName name p lookup accepted => exact hcalls.connectByName_follows _ name p lookup accepted c
  | cancelReconnect => exact .single (.session _)
  | addSentinel sentinel => exact .single (.session _)
  | clearSentinels => exact .single (.session _)
  | receive result users others attempts => exact receive_moves notify result users others attempts c
  | drop before others attempts => exact drop_moves notify before others attempts c
  | failureStep i user => exact failureStep_moves i user c

/-! ## Runs -/

theorem Accounted.moves {c c' : Client κ} (h : Accounted c) (hm : Relation.ReflTransGen Move c c') :
    Accounted c' := by
  induction hm with
  | refl => exact h
  | tail _ hstep ih => exact ih.move hstep

/-- A client that was made with any session has pushed nothing. -/
theorem Accounted.new (s : Session) : Accounted ({ toSession := s } : Client κ) where
  entries := .refl _
  replies _ h := absurd h List.not_mem_nil
  calls := rfl

theorem callbacksOf_append (requests requests' : List (CommandRequest κ)) :
    callbacksOf (requests ++ requests') = callbacksOf requests + callbacksOf requests' := by
  unfold callbacksOf
  rw [List.filterMap_append, Multiset.coe_add]

/-- The callbacks that were called are those of the entries that were handled. -/
theorem Accounted.called {c : Client κ} (h : Accounted c) :
    c.invoked.map Prod.fst = (c.handled.map Prod.fst).filterMap CommandRequest.callback := by
  have hfst : ∀ entry : CommandRequest κ × Reply,
      (callOf entry).map Prod.fst = entry.1.callback := by
    intro entry
    unfold callOf
    rw [Option.map_map]
    exact Option.map_id'
  rw [h.calls, List.map_filterMap, List.filterMap_map]
  exact congrArg (fun f => c.handled.filterMap f) (funext hfst)

/-- Each callback was called with what its entry was handled with. -/
theorem Accounted.reply_of_called {c : Client κ} (h : Accounted c) {call : Callback κ × Reply}
    (hcall : call ∈ c.invoked) : call.2 ∈ c.received ∨ call.2 = networkFailure := by
  rw [h.calls] at hcall
  obtain ⟨entry, hentry, hsome⟩ := List.mem_filterMap.mp hcall
  obtain ⟨callback, -, rfl⟩ := Option.map_eq_some_iff.mp hsome
  exact h.replies entry hentry

theorem callbacksOf_accountedFor {c : Client κ} (h : Accounted c) :
    callbacksOf c.pushed = (c.invoked.map Prod.fst : Multiset (Callback κ)) +
      callbacksOf c.commands + callbacksOf c.failureThreads.flatten := by
  have hcalled : (c.invoked.map Prod.fst : Multiset (Callback κ)) =
      callbacksOf (c.handled.map Prod.fst) := congrArg _ h.called
  rw [hcalled, Multiset.add_assoc, ← callbacksOf_append, ← callbacksOf_append]
  exact Multiset.coe_eq_coe.mpr (h.entries.filterMap _)

/-- In every state of every run, the callbacks that were ever pushed are, counted
with their multiplicities, those that were called, those in the queue and those in
failure threads. So none was called more often than it was pushed; and each was
called with a reply of the server or with the error `network failure`. -/
theorem callbacks_accounted (s : Session) (events : List (Event κ)) :
    let c := (machine notify).run { toSession := s } events
    let called : Multiset (Callback κ) := c.invoked.map Prod.fst
    callbacksOf c.pushed = called + callbacksOf c.commands +
        callbacksOf c.failureThreads.flatten ∧
      called ≤ callbacksOf c.pushed ∧
      ∀ call ∈ c.invoked, call.2 ∈ c.received ∨ call.2 = networkFailure := by
  have hrun : (machine notify).Possible ({ toSession := s } : Client κ) events :=
    Machine.possible_of_enabled (fun _ _ => trivial) _ events
  have h := hrun.invariant (I := Accounted) (fun c e hc _ => hc.moves (e.moves notify c)) (.new s)
  have hsum := callbacksOf_accountedFor h
  refine ⟨hsum, ?_, fun _ => h.reply_of_called⟩
  rw [hsum, Multiset.add_assoc]
  exact Multiset.le_add_right _ _

end Client

end CppRedis
