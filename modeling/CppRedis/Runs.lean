import CppRedis.Callbacks

/-!
# The steps of a client and of a subscriber

An event of a client may call the user's code at many places, and that code may call the
client again. Whatever it does, the event is made of small steps: those of the user's
code, of which a relation `P` says what they can be, and those that the library takes
itself. What every step keeps, every run keeps.

* `Session.Inner`: what the handlers and the reconnection do to the members that client and
  subscriber share.
* `Client.Step`, `Client.Event.steps`: the steps of a client, and that each event is made of them.
* `Client.users`: a client whose users keep to `P`. `Client.users_invariant` is its rule.
* `Subscriber.Step`, `Subscriber.Event.steps`, `Subscriber.users_invariant`: the same of a
  subscriber.
-/

namespace CppRedis

open Text Procedure

namespace Session

/-- What is done to a session inside of the library, other than what its calls do. -/
inductive Inner (s : Session) : Session → Prop
  | countAttempt : Inner s s.countAttempt
  | lose : Inner s s.lose
  | drop : Inner s { s with client := s.client.lose }
  | beginReconnection : Inner s s.beginReconnection
  | endReconnection : Inner s s.endReconnection
  | parse (builder : ReplyBuilder) : Inner s { s with client := { s.client with builder := builder } }
  | asyncRead :
      Inner s { s with client := after (RedisConnection.tcp.zoom TcpClient.asyncRead) s.client }
  | clear : Inner s { s with client := s.client.clear }

end Session

/-! ## The client -/

namespace Client

variable {κ : Type} {P : Client κ → Client κ → Prop}
  {notify : Notification → EStateM Fault (Client κ) Unit}

/-- A step: one of the user's code, or of the library. -/
inductive Step (P : Client κ → Client κ → Prop) (c : Client κ) : Client κ → Prop
  | user {c' : Client κ} (h : P c c') : Step P c c'
  | session {s : Session} (h : Session.Call c.toSession s) : Step P c (session.set s c)
  | inner {s : Session} (h : Session.Inner c.toSession s) : Step P c (session.set s c)
  | reAuth : Step P c c.reAuth
  | reSelect : Step P c c.reSelect
  | resendFailedCommands : Step P c c.resendFailedCommands
  | tryCommit : Step P c (after tryCommit c)
  | clearCallbacks : Step P c c.clearCallbacks
  | answerFront (reply : Reply) : Step P c (c.answerFront reply)
  | countDown : Step P c c.countDown

/-- A failure thread takes its next entry, and calls its callback. -/
inductive Failed (c : Client κ) : Client κ → Prop
  | failFront (i : Nat) (request : CommandRequest κ) (rest : List (CommandRequest κ))
      (h : c.failureThreads[i]? = some (request :: rest)) : Failed c (c.failFront i request rest)

theorem clearCallbacks_pushed (c : Client κ) : c.clearCallbacks.pushed = c.pushed := by
  unfold clearCallbacks
  split <;> rfl

theorem tryCommit_pushed (c : Client κ) : (after tryCommit c).pushed = c.pushed := by
  cases hc : c.client.client.connected with
  | true =>
    rw [after_ok (tryCommit_connected hc)]
    rfl
  | false =>
    rw [after_error (tryCommit_disconnected hc)]
    exact clearCallbacks_pushed _

/-- Where the user's code only moves entries, so does every step. -/
theorem Step.moves (hP : ∀ c c', P c c' → Relation.ReflTransGen Move c c') {c c' : Client κ}
    (h : Step P c c') : Relation.ReflTransGen Move c c' := by
  cases h with
  | user h => exact hP _ _ h
  | session h => exact .single (.session _)
  | inner h => exact .single (.session _)
  | reAuth =>
    unfold Client.reAuth
    split
    · exact .refl
    · exact unprotectedAuth_moves _ _ c
  | reSelect =>
    unfold Client.reSelect
    split
    · exact .refl
    · exact unprotectedSelect_moves _ _ c
  | resendFailedCommands => exact .single .resendFailedCommands
  | tryCommit => exact tryCommit_moves c
  | clearCallbacks => exact .single .clearCallbacks
  | answerFront reply => exact .single (.answerFront reply)
  | countDown => exact .single .countDown

/-- Code of the user takes steps of the user. -/
theorem steps_of_user {α : Type} {p : EStateM Fault (Client κ) α} (h : Follows P p) :
    Follows (Step P) p :=
  h.mono fun _ _ hstep => .single (.user hstep)

theorem resume_steps : Follows (Step P) (resume : EStateM Fault (Client κ) Unit) :=
  .bind (.modify fun _ => .reAuth) fun _ => .bind (.modify fun _ => .reSelect) fun _ =>
    .bind (.modify fun _ => .resendFailedCommands) fun _ _ => .single .tryCommit

theorem within_steps (hn : ∀ n, Follows P (notify n)) : (owner notify).Within (Step P) where
  session _ _ h := .session h
  notify n := steps_of_user (hn n)
  countAttempt _ := .inner .countAttempt
  lose _ := .inner .lose
  resume := resume_steps
  giveUp := .modify fun _ => .clearCallbacks

theorem handlersWithin_steps :
    HandlersWithin (connection : Lens (Client κ) RedisConnection) (Step P) where
  parse _ builder := .inner (.parse builder)
  asyncRead := .zoom fun _ => .inner .asyncRead
  clear _ := .inner .clear

theorem connectionDisconnectionHandler_steps (hn : ∀ n, Follows P (notify n))
    {others : EStateM Fault (Client κ) Unit} (hothers : Follows P others) (attempts : List Attempt) :
    Follows (Step P) (connectionDisconnectionHandler notify (after others) attempts) :=
  (within_steps hn).connectionDisconnectionHandler_follows (fun _ => .inner .beginReconnection)
    (fun _ => .inner .endReconnection) (steps_of_user hothers) attempts

theorem connectionReceiveHandler_steps {user : Option (EStateM Fault (Client κ) Unit)}
    (huser : ∀ p ∈ user, Follows P p) (reply : Reply) :
    Follows (Step P) (connectionReceiveHandler user reply) :=
  connectionReceiveHandler_follows (fun _ => .answerFront) (fun _ => .countDown)
    (fun p hp => steps_of_user (huser p hp)) reply

/-- A read, with the callbacks for its replies and the reconnection that a malformed reply
may start. -/
theorem receive_steps (hn : ∀ n, Follows P (notify n))
    {users : List (EStateM Fault (Client κ) Unit)} (husers : ∀ p ∈ users, Follows P p)
    {others : EStateM Fault (Client κ) Unit} (hothers : Follows P others) (result : ReadResult)
    (attempts : List Attempt) :
    Follows (Step P) (receive notify result users (after others) attempts) :=
  handlersWithin_steps.tcpClientReceiveHandler_follows
    (fun _ hinput => connectionReceiveHandler_steps fun p hp => husers p (hinput p hp))
    (connectionDisconnectionHandler_steps hn hothers attempts) result

theorem drop_steps (hn : ∀ n, Follows P (notify n)) {before others : EStateM Fault (Client κ) Unit}
    (hbefore : Follows P before) (hothers : Follows P others) (attempts : List Attempt) :
    Follows (Step P) (drop notify (after before) (after others) attempts) :=
  .bind (.modify fun _ => .inner .drop) fun _ => .bind (steps_of_user hbefore) fun _ =>
    handlersWithin_steps.tcpClientDisconnectionHandler_follows
      (connectionDisconnectionHandler_steps hn hothers attempts)

/-- A turn of a failure thread: nothing is left in its queue, or it takes an entry. -/
theorem failureStep_steps (i : Nat) {user : EStateM Fault (Client κ) Unit} (huser : Follows P user)
    (c : Client κ) :
    after (failureStep i user) c = c ∨
      ∃ c₁, Failed c c₁ ∧ Relation.ReflTransGen (Step P) c₁ (after (failureStep i user) c) := by
  unfold failureStep
  rw [after_get_bind]
  split
  · next request rest hi =>
    refine .inr ⟨_, .failFront i request rest hi, ?_⟩
    exact (Follows.bind (react_follows _ (steps_of_user huser)) fun _ =>
      .modify fun _ => .countDown) (c.failFront i request rest)
  · exact .inl rfl

/-! ### Runs -/

/-- Code that does nothing. -/
def Program.idle : Program κ :=
  ⟨pure (), .pure _⟩

/-- The user's code keeps to `P`: the call that the event is, and the callbacks and the
other threads that come with it. -/
def Event.Uses (P : Client κ → Client κ → Prop) (c : Client κ) : Event κ → Prop
  | .send redisCmd callback => P c (c.send redisCmd callback)
  | .auth password callback => P c (c.auth password callback)
  | .select index callback => P c (c.select index callback)
  | .commit => P c (after Client.commit c)
  | .disconnect => P c c.disconnect
  | .receive _ users others _ => (∀ p ∈ users, Follows P p.run) ∧ Follows P others.run
  | .drop before others _ => Follows P before.run ∧ Follows P others.run
  | .failureStep _ user => Follows P user.run
  | _ => True

/-- Every event is made of steps, and one of a failure thread where it is a turn of one. -/
theorem Event.steps {notify : Notification → Program κ} (hn : ∀ n, Follows P (notify n).run)
    {c : Client κ} {e : Event κ} (h : e.Uses P c) :
    Relation.ReflTransGen (fun c c' => Step P c c' ∨ Failed c c') c (e.run notify c) := by
  have hcalls : (owner (told notify)).Calls (Step P) := (within_steps hn).toCalls
  have hmono {c c' : Client κ} (hc : Relation.ReflTransGen (Step P) c c') :
      Relation.ReflTransGen (fun c c' => Step P c c' ∨ Failed c c') c c' :=
    hc.lift id fun _ _ => .inl
  cases e with
  | send redisCmd callback => exact .single (.inl (.user h))
  | auth password callback => exact .single (.inl (.user h))
  | select index callback => exact .single (.inl (.user h))
  | commit => exact .single (.inl (.user h))
  | disconnect => exact .single (.inl (.user h))
  | connect p accepted => exact hmono (hcalls.connect_follows p accepted c)
  | connectByName name p lookup accepted =>
    exact hmono (hcalls.connectByName_follows _ name p lookup accepted c)
  | cancelReconnect => exact .single (.inl (.session .cancelReconnect))
  | addSentinel sentinel => exact .single (.inl (.session (.addSentinel sentinel)))
  | clearSentinels => exact .single (.inl (.session .clearSentinels))
  | receive result users others attempts =>
    refine hmono (receive_steps hn (fun p hp => ?_) h.2 result attempts c)
    obtain ⟨user, huser, rfl⟩ := List.mem_map.mp hp
    exact h.1 user huser
  | drop before others attempts => exact hmono (drop_steps hn h.1 h.2 attempts c)
  | failureStep i user =>
    show Relation.ReflTransGen _ c (after (Client.failureStep i user.run) c)
    rcases failureStep_steps i h c with hc | ⟨c₁, hfailed, hsteps⟩
    · rw [hc]
    · exact .head (.inr hfailed) (hmono hsteps)

/-- A client whose users keep to `P`. -/
def users (P : Client κ → Client κ → Prop) (notify : Notification → Program κ) :
    Machine (Client κ) (Event κ) where
  enabled c e := e.Uses P c
  step := Event.run notify

/-- What every step keeps holds at the end of every run. -/
theorem users_invariant {notify : Notification → Program κ} (hn : ∀ n, Follows P (notify n).run)
    {I : Client κ → Prop} (hI : ∀ c c', Step P c c' → I c → I c')
    (hfailed : ∀ c c', Failed c c' → I c → I c') {c : Client κ} {events : List (Event κ)}
    (h : (users P notify).Possible c events) (hc : I c) : I ((users P notify).run c events) :=
  h.invariant_of_steps (fun c c' hstep => hstep.elim (hI c c') (hfailed c c'))
    (fun _ _ he => Event.steps hn he) hc

end Client

/-! ## The subscriber -/

namespace Subscriber

variable {κ : Type} {P : Subscriber κ → Subscriber κ → Prop}
  {notify : Notification → EStateM Fault (Subscriber κ) Unit}

/-- A step: one of the user's code, or of the library. -/
inductive Step (P : Subscriber κ → Subscriber κ → Prop) (s : Subscriber κ) : Subscriber κ → Prop
  | user {s' : Subscriber κ} (h : P s s') : Step P s s'
  | session {t : Session} (h : Session.Call s.toSession t) : Step P s (session.set t s)
  | inner {t : Session} (h : Session.Inner s.toSession t) : Step P s (session.set t s)
  | reAuth : Step P s s.reAuth
  | reSubscribe : Step P s s.reSubscribe
  | commit : Step P s (after commit s)
  | clearSubscriptions : Step P s s.clearSubscriptions
  | invoke (invocation : Invocation κ) : Step P s { s with invoked := s.invoked ++ [invocation] }
  | authAnswered : Step P s { s with authReplyCallback := none }

theorem steps_of_user {α : Type} {p : EStateM Fault (Subscriber κ) α} (h : Follows P p) :
    Follows (Step P) p :=
  h.mono fun _ _ hstep => .single (.user hstep)

theorem resume_steps : Follows (Step P) (resume : EStateM Fault (Subscriber κ) Unit) :=
  .bind (.modify fun _ => .reAuth) fun _ => .bind (.modify fun _ => .reSubscribe) fun _ _ =>
    .single .commit

theorem within_steps (hn : ∀ n, Follows P (notify n)) : (owner notify).Within (Step P) where
  session _ _ h := .session h
  notify n := steps_of_user (hn n)
  countAttempt _ := .inner .countAttempt
  lose _ := .inner .lose
  resume := resume_steps
  giveUp := .modify fun _ => .clearSubscriptions

theorem handlersWithin_steps :
    HandlersWithin (connection : Lens (Subscriber κ) RedisConnection) (Step P) where
  parse _ builder := .inner (.parse builder)
  asyncRead := .zoom fun _ => .inner .asyncRead
  clear _ := .inner .clear

theorem connectionDisconnectionHandler_steps (hn : ∀ n, Follows P (notify n))
    {others : EStateM Fault (Subscriber κ) Unit} (hothers : Follows P others)
    (attempts : List Attempt) :
    Follows (Step P) (connectionDisconnectionHandler notify (after others) attempts) :=
  (within_steps hn).connectionDisconnectionHandler_follows (fun _ => .inner .beginReconnection)
    (fun _ => .inner .endReconnection) (steps_of_user hothers) attempts

/-! ### Replies -/

/-- What the handler of replies does itself are steps of `R`. -/
structure RepliesWithin (R : Subscriber κ → Subscriber κ → Prop) : Prop where
  invoke : ∀ s invocation, R s { s with invoked := s.invoked ++ [invocation] }
  authAnswered : ∀ s, R s { s with authReplyCallback := none }

namespace RepliesWithin

variable {R : Subscriber κ → Subscriber κ → Prop} {user : EStateM Fault (Subscriber κ) Unit}

theorem invoke_follows (h : RepliesWithin R) (huser : Follows R user) (invocation : Invocation κ) :
    Follows R (Subscriber.invoke invocation user) :=
  .bind (.modify fun s => h.invoke s invocation) fun _ => huser

theorem callAcknowledgementCallback_follows (h : RepliesWithin R) (huser : Follows R user)
    (channel : Bytes) (channels : Subscriptions κ) (nbChans : Int) :
    Follows R (callAcknowledgementCallback user channel channels nbChans) := by
  unfold callAcknowledgementCallback
  split
  · exact .pure _
  · split
    · exact h.invoke_follows huser _
    · exact .pure _

theorem callMessageCallback_follows (h : RepliesWithin R) (huser : Follows R user)
    (key channel message : Bytes) (channels : Subscriptions κ) :
    Follows R (callMessageCallback user key channel message channels) := by
  unfold callMessageCallback
  split
  · exact .pure _
  · split
    · exact h.invoke_follows huser _
    · exact .throw _

theorem handleAcknowledgementReply_follows (h : RepliesWithin R) (huser : Follows R user)
    (reply : List Reply) : Follows R (handleAcknowledgementReply user reply) := by
  unfold handleAcknowledgementReply
  split
  · split
    · refine .bind .get fun s => .ite ?_ (.ite ?_ (.pure _)) <;>
        exact h.callAcknowledgementCallback_follows huser _ _ _
    · exact .pure _
  · exact .pure _

theorem handleSubscribeReply_follows (h : RepliesWithin R) (huser : Follows R user) (reply : List Reply) :
    Follows R (handleSubscribeReply user reply) := by
  unfold handleSubscribeReply
  split
  · split
    · exact .ite (.bind .get fun s => h.callMessageCallback_follows huser _ _ _ _) (.pure _)
    · exact .pure _
  · exact .pure _

theorem handlePsubscribeReply_follows (h : RepliesWithin R) (huser : Follows R user) (reply : List Reply) :
    Follows R (handlePsubscribeReply user reply) := by
  unfold handlePsubscribeReply
  split
  · split
    · exact .ite (.bind .get fun s => h.callMessageCallback_follows huser _ _ _ _) (.pure _)
    · exact .pure _
  · exact .pure _

theorem handleAuthReply_follows (h : RepliesWithin R) (huser : Follows R user) (reply : Reply) :
    Follows R (handleAuthReply user reply) := by
  unfold handleAuthReply
  refine .bind .get fun s => ?_
  split
  · exact .pure _
  · split
    · exact .bind (h.invoke_follows huser _) fun _ => .modify h.authAnswered
    · exact .modify h.authAnswered

theorem connectionReceiveHandler_follows (h : RepliesWithin R)
    {user : Option (EStateM Fault (Subscriber κ) Unit)} (huser : ∀ p ∈ user, Follows R p)
    (reply : Reply) : Follows R (connectionReceiveHandler user reply) := by
  have hcalled : Follows R (user.getD (pure ())) := by
    cases user with
    | none => exact .pure _
    | some p => exact huser p rfl
  unfold connectionReceiveHandler
  dsimp only
  split
  · exact h.handleAuthReply_follows hcalled reply
  · split
    · refine .ite (h.handleAcknowledgementReply_follows hcalled _) (.ite ?_ (.pure _))
      exact h.handleSubscribeReply_follows hcalled _
    · exact h.handlePsubscribeReply_follows hcalled _
    · exact .pure _

end RepliesWithin

theorem connectionReceiveHandler_steps {user : Option (EStateM Fault (Subscriber κ) Unit)}
    (huser : ∀ p ∈ user, Follows P p) (reply : Reply) :
    Follows (Step P) (connectionReceiveHandler user reply) :=
  RepliesWithin.connectionReceiveHandler_follows ⟨fun _ => .invoke, fun _ => .authAnswered⟩
    (fun p hp => steps_of_user (huser p hp)) reply

/-- A read, with the callbacks for its replies and the reconnection that a malformed reply
may start. -/
theorem receive_steps (hn : ∀ n, Follows P (notify n))
    {users : List (EStateM Fault (Subscriber κ) Unit)} (husers : ∀ p ∈ users, Follows P p)
    {others : EStateM Fault (Subscriber κ) Unit} (hothers : Follows P others) (result : ReadResult)
    (attempts : List Attempt) :
    Follows (Step P) (receive notify result users (after others) attempts) :=
  handlersWithin_steps.tcpClientReceiveHandler_follows
    (fun _ hinput => connectionReceiveHandler_steps fun p hp => husers p (hinput p hp))
    (connectionDisconnectionHandler_steps hn hothers attempts) result

theorem drop_steps (hn : ∀ n, Follows P (notify n))
    {before others : EStateM Fault (Subscriber κ) Unit} (hbefore : Follows P before)
    (hothers : Follows P others) (attempts : List Attempt) :
    Follows (Step P) (drop notify (after before) (after others) attempts) :=
  .bind (.modify fun _ => .inner .drop) fun _ => .bind (steps_of_user hbefore) fun _ =>
    handlersWithin_steps.tcpClientDisconnectionHandler_follows
      (connectionDisconnectionHandler_steps hn hothers attempts)

/-! ### Runs -/

/-- What happens to a subscriber: code of the user runs, or a connect, a read or a lost
connection comes with code of the user. -/
inductive Event (κ : Type)
  | user (code : EStateM Fault (Subscriber κ) Unit)
  | connect (p : Session.ConnectParams) (accepted : Bool)
  | connectByName (name : Bytes) (p : Session.ConnectParams) (lookup : Lookup) (accepted : Bool)
  | receive (result : ReadResult) (users : List (EStateM Fault (Subscriber κ) Unit))
      (others : EStateM Fault (Subscriber κ) Unit) (attempts : List Attempt)
  | drop (before others : EStateM Fault (Subscriber κ) Unit) (attempts : List Attempt)

variable (notify) in
def Event.run (s : Subscriber κ) : Event κ → Subscriber κ
  | .user code => after code s
  | .connect p accepted => after (Subscriber.connect notify p accepted) s
  | .connectByName name p lookup accepted =>
    after (Subscriber.connectByName notify name p lookup accepted) s
  | .receive result users others attempts =>
    after (Subscriber.receive notify result users (after others) attempts) s
  | .drop before others attempts =>
    after (Subscriber.drop notify (after before) (after others) attempts) s

/-- The user's code keeps to `P`. -/
def Event.Uses (P : Subscriber κ → Subscriber κ → Prop) : Event κ → Prop
  | .user code => Follows P code
  | .receive _ users others _ => (∀ p ∈ users, Follows P p) ∧ Follows P others
  | .drop before others _ => Follows P before ∧ Follows P others
  | _ => True

/-- Every event is made of steps. -/
theorem Event.steps (hn : ∀ n, Follows P (notify n)) {s : Subscriber κ} {e : Event κ}
    (h : e.Uses P) : Relation.ReflTransGen (Step P) s (e.run notify s) := by
  have hcalls : (owner notify).Calls (Step P) := (within_steps hn).toCalls
  cases e with
  | user code => exact steps_of_user h s
  | connect p accepted => exact hcalls.connect_follows p accepted s
  | connectByName name p lookup accepted =>
    exact hcalls.connectByName_follows _ name p lookup accepted s
  | receive result users others attempts => exact receive_steps hn h.1 h.2 result attempts s
  | drop before others attempts => exact drop_steps hn h.1 h.2 attempts s

/-- A subscriber whose users keep to `P`. -/
def users (P : Subscriber κ → Subscriber κ → Prop)
    (notify : Notification → EStateM Fault (Subscriber κ) Unit) :
    Machine (Subscriber κ) (Event κ) where
  enabled _ e := e.Uses P
  step := Event.run notify

/-- What every step keeps holds at the end of every run. -/
theorem users_invariant (hn : ∀ n, Follows P (notify n)) {I : Subscriber κ → Prop}
    (hI : ∀ s s', Step P s s' → I s → I s') {s : Subscriber κ} {events : List (Event κ)}
    (h : (users P notify).Possible s events) (hs : I s) : I ((users P notify).run s events) :=
  h.invariant_of_steps hI (fun _ _ he => Event.steps hn he) hs

end Subscriber

end CppRedis
