import CppRedis.Lib.Machine
import CppRedis.Locking
import CppRedis.Resend

/-!
# The callbacks of a client and its mutex

A callback of the user may call the object that runs it. It blocks for good if its thread
holds a mutex that it locks then. The functions of `client` are written here with their
`lock_guard`s, on a `Guarded` object; but for these they are the functions of the other
modules (`connectionReceiveHandler_erases` and its like).

A reply callback, a failure callback and the connect callbacks of a call of `connect` run
with nothing held. The connect callbacks of a reconnection, but for `dropped`, run with the
mutex locked: `step_clear` needs that none of them is called.
-/

namespace CppRedis

open Text Procedure

namespace Client

/-- A client, with its mutex. -/
abbrev Locked (κ : Type) :=
  Guarded Mutex (Client κ)

namespace Locked

open Guarded (inner lockGuard Erases Clear Unlocked)

variable {κ : Type}

/-- `send`. -/
def send (redisCmd : Command) (callback : Option κ) : EStateM Fault (Locked κ) Unit :=
  lockGuard .callbacks (inner.zoom (modify (Client.send redisCmd callback)))

/-- `auth`. -/
def auth (password : Bytes) (callback : Option κ) : EStateM Fault (Locked κ) Unit :=
  lockGuard .callbacks (inner.zoom (modify (Client.auth password callback)))

/-- `select`. -/
def select (index : Int) (callback : Option κ) : EStateM Fault (Locked κ) Unit :=
  lockGuard .callbacks (inner.zoom (modify (Client.select index callback)))

/-- `sync_commit`, from a thread for which nothing is left to wait for. -/
def syncCommit : EStateM Fault (Locked κ) Unit := do
  inner.zoom Client.commit
  lockGuard .callbacks (pure ())

/-- A public function, or a part of `connect`, in which the connect callback is called. The
others lock nothing. -/
inductive Public (g : Locked κ) : Locked κ → Prop
  | session {t : Session} (h : Session.Call g.object.toSession t) :
      Public g (inner.set (Client.session.set t g.object) g)
  | told : Public g g.called
  | send (redisCmd : Command) (callback : Option κ) : Public g (after (send redisCmd callback) g)
  | auth (password : Bytes) (callback : Option κ) : Public g (after (auth password callback) g)
  | select (index : Int) (callback : Option κ) : Public g (after (select index callback) g)
  | commit : Public g (inner.set (after Client.commit g.object) g)
  | syncCommit : Public g (after syncCommit g)
  | disconnect : Public g (inner.set g.object.disconnect g)

/-- What a thread of the user does, in a callback or elsewhere: it calls public functions. -/
structure Program (κ : Type) where
  run : EStateM Fault (Locked κ) Unit
  calls : Follows Public run

/-- What a callback does; those of `re_auth` and `re_select` are not the user's. -/
def react (callback : Option (Callback κ)) (user : EStateM Fault (Locked κ) Unit) :
    EStateM Fault (Locked κ) Unit :=
  match callback with
  | some (.user _) => Guarded.callback user
  | _ => pure ()

/-- A call of a callback. -/
def invoke (callback : Option (Callback κ)) (reply : Reply) (user : EStateM Fault (Locked κ) Unit) :
    EStateM Fault (Locked κ) Unit := do
  modify (inner.update (Client.record callback reply))
  react callback user

/-- `connection_receive_handler`. -/
def connectionReceiveHandler (user : EStateM Fault (Locked κ) Unit) (reply : Reply) :
    EStateM Fault (Locked κ) Unit := do
  let callback ← lockGuard .callbacks do
    let callback := (← get).object.commands.head?.bind CommandRequest.callback
    modify (inner.update (popCommand reply))
    pure callback
  invoke callback reply user
  lockGuard .callbacks (modify (inner.update countDown))

/-- A turn of the loop of the `i`-th failure thread. -/
def failureStep (i : Nat) (user : EStateM Fault (Locked κ) Unit) :
    EStateM Fault (Locked κ) Unit := do
  match (← get).object.failureThreads[i]? with
  | some (request :: rest) =>
    modify (inner.update (popFailed i request rest))
    invoke request.callback networkFailure user
    modify (inner.update countDown)
  | _ => pure ()

/-- The owner of the session. -/
def owner (notify : Notification → EStateM Fault (Locked κ) Unit) : Owner (Locked κ) :=
  (Client.owner fun _ => pure ()).guarded notify

/-- `connection_disconnection_handler`. -/
def connectionDisconnectionHandler (notify : Notification → EStateM Fault (Locked κ) Unit)
    (others : Locked κ → Locked κ) (attempts : List Attempt) : EStateM Fault (Locked κ) Bool :=
  (owner notify).lockingDisconnectionHandler [.callbacks] others attempts

/-! ## The client alone -/

section Erases

variable {user : EStateM Fault (Locked κ) Unit} {user' : EStateM Fault (Client κ) Unit}

theorem react_erases (h : Erases user user') (callback : Option (Callback κ)) :
    Erases (react callback user) (Client.react callback user') := by
  cases callback with
  | none => exact .pure _
  | some callback =>
    cases callback with
    | user k => exact .callback h
    | reAuth => exact .pure _
    | reSelect => exact .pure _

theorem invoke_erases (h : Erases user user') (callback : Option (Callback κ)) (reply : Reply) :
    Erases (invoke callback reply user) (Client.invoke callback reply user') :=
  .bind (.modify fun _ => rfl) fun _ => react_erases h callback

theorem connectionReceiveHandler_erases (h : Erases user user') (reply : Reply) :
    Erases (connectionReceiveHandler user reply)
      (Client.connectionReceiveHandler (some user') reply) := by
  intro g
  -- the callback is read and popped in one step
  have hrest (callback : Option (Callback κ)) : Erases
      (do invoke callback reply user; lockGuard .callbacks (modify (inner.update countDown)))
      (do Client.invoke callback reply user'; modify countDown) :=
    .bind (invoke_erases h callback reply) fun _ => .lockGuard _ (.modify fun _ => rfl)
  exact hrest _ _

theorem failureStep_erases (h : Erases user user') (i : Nat) :
    Erases (failureStep i user) (Client.failureStep i user') := by
  refine .get_bind fun g => ?_
  cases g.object.failureThreads[i]? with
  | none => exact .pure _
  | some requests =>
    cases requests with
    | nil => exact .pure _
    | cons request rest =>
      refine .bind (.modify fun _ => rfl) fun _ => ?_
      exact .bind (invoke_erases h _ _) fun _ => .modify fun _ => rfl

theorem connectionDisconnectionHandler_erases
    {notify : Notification → EStateM Fault (Locked κ) Unit}
    {notify' : Notification → EStateM Fault (Client κ) Unit}
    (h : ∀ n, Erases (notify n) (notify' n))
    {others : Locked κ → Locked κ} {others' : Client κ → Client κ}
    (hothers : ∀ g, (others g).object = others' g.object) (attempts : List Attempt) :
    Erases (connectionDisconnectionHandler notify others attempts)
      (Client.connectionDisconnectionHandler notify' others' attempts) :=
  Owner.lockingDisconnectionHandler_erases (o := Client.owner notify') h _ hothers attempts

end Erases

/-! ## What is held -/

/-- The public functions lock no mutex but their own, which they unlock again. -/
theorem Public.kept {I : Locked κ → Prop} (hI : Guarded.Robust I) {g g' : Locked κ}
    (h : Public g g') : Keeping I g g' := by
  intro hg
  cases h with
  | session h => exact hI.set hg _
  | told => exact hI.called hg
  | send redisCmd callback => exact (hI.lockGuard _ _).keeping hg
  | auth password callback => exact (hI.lockGuard _ _).keeping hg
  | select index callback => exact (hI.lockGuard _ _).keeping hg
  | commit => exact hI.set hg _
  | syncCommit =>
    have hcommit : Follows (Keeping I) (Locked.syncCommit : EStateM Fault (Locked κ) Unit) :=
      .bind (.zoom fun _ hg => hI.set hg _) fun _ => hI.lockGuard _ (pure ())
    exact hcommit.keeping hg
  | disconnect => exact hI.set hg _

theorem Program.kept {I : Locked κ → Prop} (hI : Guarded.Robust I) (p : Program κ) :
    Follows (Keeping I) p.run :=
  p.calls.mono fun _ _ h => .single (h.kept hI)

theorem Program.clear (p : Program κ) : Follows (Keeping Clear) p.run :=
  p.kept Clear.robust

theorem Program.spoiled (p : Program κ) : Follows (Keeping Guarded.Spoiled) p.run :=
  p.kept Guarded.Spoiled.robust

theorem invoke_clear (callback : Option (Callback κ)) (reply : Reply) (user : Program κ) :
    Follows (Keeping Clear) (invoke callback reply user.run) := by
  unfold invoke react
  refine .bind (.modify fun _ hg => hg.set _) fun _ => ?_
  split
  · exact Clear.callback user.clear
  · exact .pure _

theorem connectionReceiveHandler_clear (user : Program κ) (reply : Reply) :
    Follows (Keeping Clear) (connectionReceiveHandler user.run reply) := by
  have hpop : Follows (Keeping Unlocked) (do
      let callback := (← get).object.commands.head?.bind CommandRequest.callback
      modify (inner.update (popCommand reply))
      pure callback : EStateM Fault (Locked κ) (Option (Callback κ))) :=
    .bind .get fun _ => .bind (.modify fun _ hg => hg.set _) fun _ => .pure _
  refine .bind (Clear.lockGuard hpop _) fun callback => ?_
  refine .bind (invoke_clear callback reply user) fun _ => ?_
  exact Clear.lockGuard (.modify fun _ hg => hg.set _) _

theorem failureStep_clear (i : Nat) (user : Program κ) :
    Follows (Keeping Clear) (failureStep i user.run) := by
  refine .bind .get fun g => ?_
  split
  · refine .bind (.modify fun _ hg => hg.set _) fun _ => ?_
    exact .bind (invoke_clear _ _ user) fun _ => .modify fun _ hg => hg.set _
  · exact .pure _

theorem clearCallbacks_connectCallback (c : Client κ) :
    c.clearCallbacks.connectCallback = c.connectCallback := by
  unfold clearCallbacks
  split <;> rfl

theorem tryCommit_connectCallback (c : Client κ) :
    (after tryCommit c).connectCallback = c.connectCallback := by
  cases hc : c.client.client.connected with
  | true =>
    rw [after_ok (tryCommit_connected hc)]
    rfl
  | false =>
    rw [after_error (tryCommit_disconnected hc)]
    exact clearCallbacks_connectCallback _

/-- The end of a reconnection does not touch the connect callback. -/
theorem keepsCallback : (Client.owner fun _ => pure () : Owner (Client κ)).KeepsCallback where
  resume c := by
    have hauth (c : Client κ) : c.reAuth.connectCallback = c.connectCallback := by
      unfold reAuth
      split <;> rfl
    have hselect (c : Client κ) : c.reSelect.connectCallback = c.connectCallback := by
      unfold reSelect
      split <;> rfl
    have hresend (c : Client κ) : c.resendFailedCommands.connectCallback = c.connectCallback := by
      rw [resendFailedCommands_eq]
    show (after tryCommit c.reAuth.reSelect.resendFailedCommands).connectCallback = _
    rw [tryCommit_connectCallback, hresend, hselect, hauth]
    rfl
  giveUp c := clearCallbacks_connectCallback c

/-! ## Runs -/

/-- What happens to a client: a thread of the user calls it, its connection changes (bytes
arrive, a read is requested, it is lost), one of its two handlers is called, or a failure
thread takes a turn. -/
inductive Event (κ : Type)
  | call (program : Program κ)
  | connection (r : RedisConnection)
  | reply (reply : Reply) (user : Program κ)
  | disconnected (others : Program κ) (attempts : List Attempt)
  | failureStep (i : Nat) (user : Program κ)

variable (notify : Notification → Program κ)

/-- The program of the connect callback. -/
def told (n : Notification) : EStateM Fault (Locked κ) Unit :=
  (notify n).run

def step (g : Locked κ) : Event κ → Locked κ
  | .call program => after program.run g
  | .connection r => (inner.comp Client.connection).set r g
  | .reply reply user => after (connectionReceiveHandler user.run reply) g
  | .disconnected others attempts =>
    after (connectionDisconnectionHandler (told notify) (after others.run) attempts) g
  | .failureStep i user => after (failureStep i user.run) g

/-- A client with its mutex, and what happens to it. Each event is the work of a thread that
holds nothing at first. -/
def machine : Machine (Locked κ) (Event κ) :=
  ⟨fun _ _ => True, step notify⟩

theorem calls_public : (owner (told notify)).Calls Public where
  session _ _ h := .session h
  notify n := .bind (.modify fun _ => .told) fun _ => (notify n).calls

/-- A call of `connect`, by a thread that holds nothing. -/
def connecting (p : Session.ConnectParams) (accepted : Bool) : Program κ :=
  ⟨(owner (told notify)).connect p accepted, (calls_public notify).connect_follows p accepted⟩

/-- A call of `connect` by the name of the master. -/
def connectingByName (name : Bytes) (p : Session.ConnectParams) (lookup : Lookup)
    (accepted : Bool) : Program κ :=
  ⟨(owner (told notify)).connectByName
      "cpp_redis::client::connect() could not find master for name " name p lookup accepted,
    (calls_public notify).connectByName_follows _ name p lookup accepted⟩

/-- An event happens. -/
def Happens (g g' : Locked κ) : Prop :=
  ∃ e, g' = step notify g e

theorem handlersWithin_happens : HandlersWithin (inner.comp Client.connection) (Happens notify) where
  parse _ _ := ⟨.connection _, rfl⟩
  asyncRead := .zoom fun g => ⟨.connection (after _ ((inner.comp Client.connection).get g)), rfl⟩
  clear _ := ⟨.connection _, rfl⟩

/-- A read, with the callbacks for its replies, is a run of events. -/
theorem receive_happens (result : ReadResult) (users : List (Program κ)) (others : Program κ)
    (attempts : List Attempt) :
    Follows (Happens notify) (tcpClientReceiveHandler (inner.comp Client.connection)
      (fun user => connectionReceiveHandler (user.elim (pure ()) Program.run))
      (connectionDisconnectionHandler (told notify) (after others.run) attempts) result users) := by
  refine (handlersWithin_happens notify).tcpClientReceiveHandler_follows ?_ ?_ result
  · intro user _ reply g
    cases user with
    | none => exact .single ⟨.reply reply ⟨pure (), .pure _⟩, rfl⟩
    | some user => exact .single ⟨.reply reply user, rfl⟩
  · exact fun g => .single ⟨.disconnected others attempts, rfl⟩

/-- So is what follows the loss of a connection. -/
theorem drop_happens (others : Program κ) (attempts : List Attempt) :
    Follows (Happens notify) (tcpClientDisconnectionHandler (inner.comp Client.connection)
      (connectionDisconnectionHandler (told notify) (after others.run) attempts)) :=
  (handlersWithin_happens notify).tcpClientDisconnectionHandler_follows
    fun _ => .single ⟨.disconnected others attempts, rfl⟩

/-- No connect callback is called by a handler that has locked the mutex. -/
def Keeps (g : Locked κ) : Event κ → Prop
  | .disconnected others attempts =>
    (owner (told notify)).Harmless (after others.run) attempts g
  | _ => True

theorem step_clear {g : Locked κ} (hg : g.Clear) (e : Event κ) (he : Keeps notify g e) :
    Clear (step notify g e) := by
  cases e with
  | call program => exact program.clear.keeping hg
  | connection r => exact hg.set _
  | reply reply user => exact (connectionReceiveHandler_clear user reply).keeping hg
  | disconnected others attempts =>
    exact Owner.lockingDisconnectionHandler_clear keepsCallback (fun n => (notify n).clear)
      (by decide) (fun _ hg => others.clear.keeping hg) hg he
  | failureStep i user => exact (failureStep_clear i user).keeping hg

/-- A step that calls nobody under the mutex. -/
theorem keeps_of_unlocked {g : Locked κ} {e : Event κ} (h : Unlocked (step notify g e)) :
    Keeps notify g e := by
  cases e with
  | disconnected others attempts =>
    exact Owner.harmless_of_unlocked (fun n => (notify n).spoiled) keepsCallback
      (fun _ => ⟨_, _, rfl⟩) (List.cons_ne_nil _ _) h
  | _ => trivial

/-- A run of a client calls no callback under the mutex, and none of its callbacks locks a
mutex that its thread holds, if and only if each of its handlers is harmless. -/
theorem always_unlocked_iff (c : Client κ) (events : List (Event κ)) :
    (machine notify).Always Unlocked { object := c } events ↔
      (machine notify).Along (Keeps notify) { object := c } events :=
  Machine.always_iff_along_of_kept (fun _ hg => hg.toUnlocked)
    (fun _ e hg _ he => step_clear notify hg e he) (fun _ _ _ _ h => keeps_of_unlocked notify h)
    (Machine.possible_of_enabled (fun _ _ => trivial) _ events) (.new c)

end Locked

end Client

end CppRedis
