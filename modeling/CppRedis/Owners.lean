import CppRedis.Reading
import CppRedis.Runs
import CppRedis.Stale

/-!
# The connection of a client, of a subscriber and of a sentinel

A `client`, a `subscriber` and a `sentinel` do nothing to their `redis_connection` but
call its public functions (`ByCalls`), also while they reconnect. So each of their events
is, for the connection, a run of its own, with some callbacks
(`tcpClientReceiveHandler_step`, `tcpClientDisconnectionHandler_step`), and what
holds in every such run holds of their connections.

* `Client.client_reading_iff`, `Subscriber.subscriber_reading_iff`,
  `SentinelClient.sentinel_reading_iff`: a run of the class is one of its connection, and exactly
  one request is outstanding on it whenever it is open if and only if each step of that run
  resumes reading.
-/

namespace CppRedis

open Text Procedure RedisConnection

/-! ## Runs of owners -/

namespace RedisConnection

/-- A change of the connection that is an event of an owner: calls of public functions, or one
event of the connection. -/
inductive Amounts (c c' : RedisConnection) : Prop
  | calls (calls : List Call) (h : c' = c.callAll calls)
  | event (e : Event) (he : Enabled c e) (h : c' = step c e)

theorem along_calls {C : RedisConnection → Event → Prop} (hC : ∀ c call, C c (.call call))
    (calls : List Call) (c : RedisConnection) : machine.Along C c (calls.map .call) := by
  induction calls generalizing c with
  | nil => trivial
  | cons call calls ih => exact ⟨hC c call, ih _⟩

/-- Calls keep reading an open connection that is read. -/
theorem Amounts.run {c c' : RedisConnection} (h : Amounts c c') (hw : Wired c) :
    ∃ run, machine.Possible c run ∧ machine.run c run = c' ∧
      (Reading c → Reading c' → machine.Always Reading c run) := by
  cases h with
  | calls calls h =>
    have hpossible := along_calls (C := Enabled) (fun _ _ => trivial) calls c
    -- a call needs no request and resumes reading, whatever it is
    refine ⟨calls.map .call, hpossible, List.foldl_map.trans h.symm, fun hr _ => ?_⟩
    exact (hw.reading_iff_along hr hpossible).mpr (along_calls (fun _ _ => trivial) calls c)
  | event e he h =>
    subst h
    exact ⟨[e], ⟨he, trivial⟩, rfl, fun hr hr' => ⟨hr, hr'⟩⟩

/-- Where each event of an owner is one of its connection, or calls, so is every run, and the
connection is read throughout if and only if each step of its run resumes reading. -/
theorem reading_iff_of_amounts {σ ε : Type} {m : Machine σ ε} {f : σ → RedisConnection}
    (hsteps : ∀ s e, Wired (f s) → m.enabled s e → Amounts (f s) (f (m.step s e))) {s : σ}
    {events : List ε} (h : m.Possible s events) (hw : Wired (f s)) (hr : Reading (f s)) :
    ∃ run, machine.Possible (f s) run ∧ machine.run (f s) run = f (m.run s events) ∧
      (m.Always (fun s => Reading (f s)) s events ↔ machine.Along Resumes (f s) run) := by
  obtain ⟨run, hpossible, hend, hiff⟩ := h.seen (n := machine) (I := Reading)
    (fun _ e hw _ => hw.step e) (fun s e hw he => (hsteps s e hw he).run hw) hw
  exact ⟨run, hpossible, hend, hiff.trans (hw.reading_iff_along hr hpossible)⟩

end RedisConnection

/-! ## Owners that call their connection -/

section Owners

variable {σ ι : Type} (connection : Lens σ RedisConnection)

/-- The connection was moved by calls of its public functions. -/
def ByCalls (s s' : σ) : Prop :=
  ∃ calls : List RedisConnection.Call, connection.get s' = (connection.get s).callAll calls

variable {connection}

theorem ByCalls.of_eq {s s' : σ} (h : connection.get s' = connection.get s) :
    ByCalls connection s s' :=
  ⟨[], h⟩

theorem ByCalls.of_call {s s' : σ} (call : RedisConnection.Call)
    (h : connection.get s' = call.apply (connection.get s)) : ByCalls connection s s' :=
  ⟨[call], h⟩

theorem ByCalls.trans {s₁ s₂ s₃ : σ} (h : ByCalls connection s₁ s₂) (h' : ByCalls connection s₂ s₃) :
    ByCalls connection s₁ s₃ := by
  obtain ⟨calls, hcalls⟩ := h
  obtain ⟨calls', hcalls'⟩ := h'
  refine ⟨calls ++ calls', ?_⟩
  rw [hcalls', hcalls]
  exact List.foldl_append.symm

theorem ByCalls.of_follows {α : Type} {p : EStateM Fault σ α} (hp : Follows (ByCalls connection) p)
    (s : σ) : ByCalls connection s (after p s) :=
  hp.keeps (I := ByCalls connection s) (fun _ _ hstep h => h.trans hstep) (.of_eq rfl)

/-- The loop over the replies, seen from the connection: the calls of each
callback and what it throws make up its script. -/
theorem deliver_script {receive : Option ι → Reply → EStateM Fault σ Unit} {inputs : List ι}
    (hreceive : ∀ input : Option ι, (∀ i ∈ input, i ∈ inputs) →
      ∀ reply, Follows (ByCalls connection) (receive input reply)) {n : Nat} {s : σ}
    (hn : (connection.get s).builder.availableReplies.length = n)
    (hset : CallbacksSet (connection.get s)) :
    ∃ replies thrown s', deliver connection receive n inputs s = ended thrown s' ∧
      deliver Lens.id runReplyCallback n replies (connection.get s) =
        ended thrown (connection.get s') := by
  induction n generalizing inputs s with
  | zero => exact ⟨[], none, s, rfl, rfl⟩
  | succ n ih =>
    obtain ⟨reply, rest, havailable⟩ : ∃ reply rest,
        (connection.get s).builder.availableReplies = reply :: rest :=
      List.exists_cons_of_length_eq_add_one hn
    rw [havailable] at hn
    rw [deliver_succ connection receive n inputs havailable hset.1]
    have hpopped : connection.get (connection.update (popReply rest) s) =
        popReply rest (connection.get s) := connection.get_set _ _
    have hlen : (popReply rest (connection.get s)).builder.availableReplies.length = n :=
      Nat.succ.inj hn
    have hset₁ : CallbacksSet (popReply rest (connection.get s)) := hset
    generalize connection.update (popReply rest) s = s₁ at hpopped ⊢
    rw [← hpopped] at hlen hset₁
    obtain ⟨calls, hcalls⟩ := ByCalls.of_follows
      (hreceive inputs.head? (fun i hi => List.mem_of_head? hi) reply) s₁
    have hkept := callAll_kept calls (connection.get s₁)
    cases hrun : receive inputs.head? reply s₁ with
    | error e s₂ =>
      rw [after_error hrun] at hcalls
      refine ⟨[Script.mk calls (some e)], some e, s₂, bind_error hrun _, ?_⟩
      rw [deliver_succ Lens.id _ n _ havailable hset.1, hcalls, hpopped]
      exact bind_error (Script.run_eq ⟨calls, some e⟩ _) _
    | ok u s₂ =>
      rw [after_ok hrun] at hcalls
      rw [← hcalls] at hkept
      have hreceive' : ∀ input : Option ι, (∀ i ∈ input, i ∈ inputs.tail) →
          ∀ reply, Follows (ByCalls connection) (receive input reply) :=
        fun input hinput => hreceive input fun i hi => List.mem_of_mem_tail (hinput i hi)
      obtain ⟨replies, thrown, s', hdeliver, hscript⟩ :=
        ih hreceive' (hkept.1 ▸ hlen) (hkept.2 hset₁)
      refine ⟨Script.mk calls none :: replies, thrown, s', (bind_ok hrun _).trans hdeliver, ?_⟩
      rw [deliver_succ Lens.id _ n _ havailable hset.1]
      refine (bind_ok (Script.run_eq ⟨calls, none⟩ _) _).trans ?_
      have hover : Lens.id.update (popReply rest) (connection.get s) = connection.get s₁ := hpopped.symm
      rw [hover, ← hcalls]
      exact hscript

variable (connection) in
/-- What the handler of a read does to the connection of an owner is what it does
to the connection alone, with some callbacks. -/
theorem tcpClientReceiveHandler_step {receive : Option ι → Reply → EStateM Fault σ Unit}
    {disconnected : EStateM Fault σ Bool} {inputs : List ι}
    (hreceive : ∀ input : Option ι, (∀ i ∈ input, i ∈ inputs) →
      ∀ reply, Follows (ByCalls connection) (receive input reply))
    (hdisconnected : Follows (ByCalls connection) disconnected) (data : Bytes) {s : σ}
    (hset : CallbacksSet (connection.get s)) :
    ∃ replies handler,
      connection.get (after (tcpClientReceiveHandler connection receive disconnected (some data)
          inputs) s) =
        after (received (some data) replies handler) (connection.get s) := by
  unfold received tcpClientReceiveHandler
  rw [after_get_bind]
  simp only [after_get_bind]
  have hid : Lens.id.get (connection.get s) = connection.get s := rfl
  rw [hid]
  rcases (connection.get s).builder.feed data with ⟨builder, outcome⟩
  dsimp only
  simp only [after_modify_bind]
  have hparsed : connection.get
      (connection.set { connection.get s with builder := builder } s) =
        { connection.get s with builder := builder } := connection.get_set _ _
  have hset₁ : CallbacksSet { connection.get s with builder := builder } := hset
  have hbuilder : { connection.get s with builder := builder }.builder = builder := rfl
  have hidset : Lens.id.set { connection.get s with builder := builder } (connection.get s) =
      { connection.get s with builder := builder } := rfl
  rw [hidset]
  generalize connection.set { connection.get s with builder := builder } s = s₁ at hparsed ⊢
  rw [← hparsed] at hset₁ hbuilder ⊢
  -- from here both run on the same connection, the owner's and the one alone
  cases outcome with
  | error e =>
    cases e with
    | redisError what =>
      obtain ⟨calls, hcalls⟩ := ByCalls.of_follows
        (HandlersWithin.callDisconnectionHandler_follows connection hdisconnected) s₁
      refine ⟨[], Script.mk calls none, hcalls.trans ?_⟩
      exact (after_callDisconnectionHandler (Script.mk calls none) hset₁).symm
    | _ => exact ⟨[], {}, rfl⟩
  | ok u =>
    obtain ⟨replies, thrown, s', hdeliver, hscript⟩ := deliver_script hreceive rfl hset₁
    rw [hbuilder] at hdeliver hscript
    refine ⟨replies, {}, ?_⟩
    dsimp only
    cases thrown with
    | none =>
      have howner := after_bind_ok hdeliver fun _ => readAgain connection
      have halone := after_bind_ok hscript fun _ => readAgain Lens.id
      exact (congrArg connection.get howner).trans ((get_readAgain connection s').trans
        ((get_readAgain Lens.id (connection.get s')).symm.trans halone.symm))
    | some e =>
      have howner := after_bind_error hdeliver fun _ => readAgain connection
      have halone := after_bind_error hscript fun _ => readAgain Lens.id
      exact (congrArg connection.get howner).trans halone.symm

variable (connection) in
/-- The same for the handler of a lost connection. -/
theorem tcpClientDisconnectionHandler_step {disconnected : EStateM Fault σ Bool}
    (hdisconnected : Follows (ByCalls connection) disconnected) {s : σ}
    (hset : CallbacksSet (connection.get s)) :
    ∃ handler, connection.get (after (tcpClientDisconnectionHandler connection disconnected) s) =
      after (dropped handler) (connection.get s) := by
  unfold dropped tcpClientDisconnectionHandler
  rw [after_modify_bind]
  have hcleared : connection.get (connection.update RedisConnection.clear s) =
      (connection.get s).clear := connection.get_set _ _
  obtain ⟨calls, hcalls⟩ := ByCalls.of_follows
    (HandlersWithin.callDisconnectionHandler_follows connection hdisconnected)
    (connection.update RedisConnection.clear s)
  rw [hcleared] at hcalls
  refine ⟨Script.mk calls none, hcalls.trans ?_⟩
  exact (after_callDisconnectionHandler (Script.mk calls none) (c := (connection.get s).clear)
    hset).symm

theorem ByCalls.amounts {s s' : σ} (h : ByCalls connection s s') :
    Amounts (connection.get s) (connection.get s') := by
  obtain ⟨calls, hcalls⟩ := h
  exact .calls calls hcalls

end Owners

/-! ## Sessions -/

theorem Session.Call.byCalls {s t : Session} (h : Session.Call s t) :
    ByCalls Session.connection s t := by
  cases h with
  | lookup lookup =>
    obtain ⟨host, port, h⟩ := s.after_getMasterAddrByName lookup
    rw [h]
    exact .of_eq rfl
  | dial host port timeoutMsecs accepted =>
    rw [Lens.after_zoom]
    exact .of_call (.connect host port timeoutMsecs accepted) rfl
  | _ => exact .of_eq rfl

/-! ## The client -/

namespace Client

variable {κ : Type} {notify : Notification → EStateM Fault (Client κ) Unit}

theorem push_byCalls (request : CommandRequest κ) (c : Client κ) :
    ByCalls connection c (c.push request) :=
  .of_call (.send request.command) rfl

theorem clearCallbacks_byCalls (c : Client κ) : ByCalls connection c c.clearCallbacks :=
  .of_eq c.clearCallbacks_client

theorem tryCommit_byCalls :
    Follows (ByCalls connection) (tryCommit : EStateM Fault (Client κ) Unit) := by
  unfold tryCommit
  refine .tryCatch (.zoom fun c => .of_call .commit rfl) fun e => ?_
  cases e with
  | redisError what => exact .bind (.modify clearCallbacks_byCalls) fun _ => .throw _
  | _ => exact .throw _

theorem Call.byCalls {c c' : Client κ} (h : Call c c') : ByCalls connection c c' := by
  cases h with
  | session h =>
    obtain ⟨calls, hcalls⟩ := h.byCalls
    exact ⟨calls, hcalls⟩
  | send redisCmd callback => exact push_byCalls _ c
  | auth password callback => exact push_byCalls _ { c with password := password }
  | select index callback => exact push_byCalls _ { c with databaseIndex := index }
  | commit =>
    refine ByCalls.of_follows (.bind .get fun c => .ite ?_ (.pure _)) c
    exact tryCommit_byCalls
  | disconnect =>
    have hclosed : ByCalls connection c { c with client := c.client.disconnect } :=
      .of_call .disconnect rfl
    exact hclosed.trans (clearCallbacks_byCalls _)

theorem resume_byCalls :
    Follows (ByCalls connection) (resume : EStateM Fault (Client κ) Unit) := by
  unfold resume
  refine .bind (.modify fun c => ?_) fun _ => .bind (.modify fun c => ?_) fun _ =>
    .bind (.modify fun c => ?_) fun _ => tryCommit_byCalls
  · unfold reAuth
    split
    · exact .of_eq rfl
    · exact push_byCalls _ { c with password := c.password }
  · unfold reSelect
    split
    · exact .of_eq rfl
    · exact push_byCalls _ { c with databaseIndex := c.databaseIndex }
  · unfold resendFailedCommands
    split
    · exact .of_eq rfl
    · generalize c.commands = requests
      have hstart : ByCalls connection c { c with commands := [] } := .of_eq rfl
      refine hstart.trans ?_
      generalize { c with commands := [] } = c₁
      induction requests generalizing c₁ with
      | nil => exact .of_eq rfl
      | cons request requests ih =>
        have hsend : ByCalls connection c₁ (c₁.unprotectedSend request) :=
          .of_call (.send request.command) rfl
        exact hsend.trans (ih _)

/-- A connect callback that reaches the client through its public functions keeps
the reconnection to calls of the connection. -/
theorem within_byCalls (hn : ∀ n, Follows Call (notify n)) :
    (owner notify).Within (ByCalls connection) where
  session _ _ h := Call.byCalls (.session h)
  notify n := (hn n).mono fun _ _ h => .single h.byCalls
  countAttempt _ := .of_eq rfl
  lose _ := .of_call .disconnect rfl
  resume := resume_byCalls
  giveUp := .modify clearCallbacks_byCalls

theorem connectionReceiveHandler_byCalls {user : Option (EStateM Fault (Client κ) Unit)}
    (huser : ∀ p, user = some p → Follows Call p) (reply : Reply) :
    Follows (ByCalls connection) (connectionReceiveHandler user reply) :=
  connectionReceiveHandler_follows (fun _ _ => .of_eq rfl) (fun _ => .of_eq rfl)
    (fun p hp => (huser p hp).mono fun _ _ h => .single h.byCalls) reply

theorem calls_byCalls {c c' : Client κ} (h : Relation.ReflTransGen Call c c') :
    ByCalls connection c c' := by
  induction h with
  | refl => exact .of_eq rfl
  | tail _ hstep ih => exact ih.trans hstep.byCalls

/-- The other threads, too, call public functions. -/
theorem connectionDisconnectionHandler_byCalls (hn : ∀ n, Follows Call (notify n))
    {others : Client κ → Client κ} (hothers : ∀ c, Relation.ReflTransGen Call c (others c))
    (attempts : List Attempt) :
    Follows (ByCalls connection) (connectionDisconnectionHandler notify others attempts) :=
  (within_byCalls hn).connectionDisconnectionHandler_follows (fun _ => .of_eq rfl)
    (fun _ => .of_eq rfl) (fun c => .single (calls_byCalls (hothers c))) attempts

/-- What a read does to the connection of a client, callbacks included. -/
theorem receive_step (hn : ∀ n, Follows Call (notify n))
    {users : List (EStateM Fault (Client κ) Unit)} (husers : ∀ p ∈ users, Follows Call p)
    {others : Client κ → Client κ} (hothers : ∀ c, Relation.ReflTransGen Call c (others c))
    (data : Bytes) (attempts : List Attempt) {c : Client κ} (hset : CallbacksSet c.client) :
    ∃ replies handler, (after (receive notify (some data) users others attempts)
        (connection.update completeRead c)).client = step c.client (.read data replies handler) :=
  tcpClientReceiveHandler_step connection
    (fun _ hinput reply => connectionReceiveHandler_byCalls
      (fun p hp => husers p (hinput p hp)) reply)
    (connectionDisconnectionHandler_byCalls hn hothers attempts) data hset

/-- What a lost connection of a client goes through. -/
theorem drop_step (hn : ∀ n, Follows Call (notify n)) {before others : Client κ → Client κ}
    (hbefore : ∀ c, Relation.ReflTransGen Call c (before c))
    (hothers : ∀ c, Relation.ReflTransGen Call c (others c)) (attempts : List Attempt)
    {c : Client κ} (hset : CallbacksSet c.client) :
    ∃ calls handler, (after (drop notify before others attempts) c).client =
      step c.client (.drop calls handler) := by
  obtain ⟨calls, hcalls⟩ := calls_byCalls (hbefore (connection.update RedisConnection.lose c))
  have hset' : CallbacksSet (connection.get (before (connection.update RedisConnection.lose c))) := by
    rw [hcalls]
    exact (callAll_kept calls _).2 hset
  obtain ⟨handler, hhandler⟩ := tcpClientDisconnectionHandler_step connection
    (connectionDisconnectionHandler_byCalls hn hothers attempts) hset'
  rw [hcalls] at hhandler
  exact ⟨calls, handler, hhandler⟩

/-- A turn of a failure thread. -/
theorem failureStep_byCalls (i : Nat) {user : EStateM Fault (Client κ) Unit}
    (huser : Follows Call user) : Follows (ByCalls connection) (failureStep i user) := by
  unfold failureStep
  refine .bind .get fun c => ?_
  split
  · have hcalled : Follows (ByCalls connection) user := huser.mono fun _ _ h => .single h.byCalls
    refine .bind (.modify fun _ => .of_eq rfl) fun _ => .bind ?_ fun _ => .modify fun _ => .of_eq rfl
    exact .bind (.modify fun _ => .of_eq rfl) fun _ => react_follows _ hcalled
  · exact .pure _

/-! ### Runs -/

/-- Only a request that is outstanding completes, and only an open connection is lost. -/
def Event.CanHappen (c : Client κ) : Event κ → Prop
  | .receive _ _ _ _ => 0 < c.client.client.reads
  | .drop _ _ _ => c.client.client.connected = true
  | _ => True

/-- A client whose users call its public functions, and which is read by request. -/
def overConnection (notify : Notification → Program κ) : Machine (Client κ) (Event κ) where
  enabled c e := e.Uses Call c ∧ e.CanHappen c
  step c e :=
    match e with
    | .receive _ _ _ _ => e.run notify (connection.update completeRead c)
    | _ => e.run notify c

/-- What an event of a client is for its connection. -/
theorem overConnection_amounts {notify : Notification → Program κ}
    (hn : ∀ n, Follows Call (notify n).run) (c : Client κ) (e : Event κ) (hw : Wired c.client)
    (he : (overConnection notify).enabled c e) :
    Amounts c.client ((overConnection notify).step c e).client := by
  have hcalls : (owner (told notify)).Calls (ByCalls connection) := (within_byCalls hn).toCalls
  obtain ⟨huses, hcan⟩ := he
  cases e with
  | send redisCmd callback => exact (Call.byCalls huses).amounts
  | auth password callback => exact (Call.byCalls huses).amounts
  | select index callback => exact (Call.byCalls huses).amounts
  | commit => exact (Call.byCalls huses).amounts
  | disconnect => exact (Call.byCalls huses).amounts
  | connect p accepted => exact (ByCalls.of_follows (hcalls.connect_follows p accepted) c).amounts
  | connectByName name p lookup accepted =>
    exact (ByCalls.of_follows (hcalls.connectByName_follows _ name p lookup accepted) c).amounts
  | cancelReconnect => exact .calls [] rfl
  | addSentinel sentinel => exact .calls [] rfl
  | clearSentinels => exact .calls [] rfl
  | receive result users others attempts =>
    cases result with
    -- a failed read calls nobody
    | none => exact .event .failedRead hcan rfl
    | some data =>
      have husers : ∀ p ∈ users.map Program.run, Follows Call p := by
        intro p hp
        obtain ⟨user, huser, rfl⟩ := List.mem_map.mp hp
        exact huses.1 user huser
      obtain ⟨replies, handler, hstep⟩ := receive_step hn husers huses.2 data attempts
        (hw.callbacksSet (hw.connected hcan))
      exact .event (.read data replies handler) hcan hstep
  | drop before others attempts =>
    obtain ⟨calls, handler, hstep⟩ :=
      drop_step hn huses.1 huses.2 attempts (hw.callbacksSet hcan)
    exact .event (.drop calls handler) hcan hstep
  | failureStep i user => exact (ByCalls.of_follows (failureStep_byCalls i huses) c).amounts

/-- A run of a client is one of its connection. Exactly one request is outstanding on it
whenever it is open if and only if each step of that run resumes reading. -/
theorem client_reading_iff {notify : Notification → Program κ}
    (hn : ∀ n, Follows Call (notify n).run) (s : Session) (what : String) {events : List (Event κ)}
    (h : (overConnection notify).Possible
      { toSession := { s with client := { client := { what := what } } } } events) :
    let c : Client κ := { toSession := { s with client := { client := { what := what } } } }
    ∃ run, RedisConnection.machine.Possible c.client run ∧
      RedisConnection.machine.run c.client run = ((overConnection notify).run c events).client ∧
      ((overConnection notify).Always (fun c => RedisConnection.Reading c.client) c events ↔
        RedisConnection.machine.Along Resumes c.client run) :=
  reading_iff_of_amounts (f := fun c : Client κ => c.client) (overConnection_amounts hn) h (.new what)
    (.new what)

end Client

/-! ## The subscriber -/

namespace Subscriber

variable {κ : Type} {notify : Notification → EStateM Fault (Subscriber κ) Unit}

theorem Call.byCalls {s s' : Subscriber κ} (h : Call s s') : ByCalls connection s s' := by
  cases h with
  | session h =>
    obtain ⟨calls, hcalls⟩ := h.byCalls
    exact ⟨calls, hcalls⟩
  | auth password callback => exact .of_call (.send [ascii "AUTH", password]) rfl
  | subscribe channel callback acknowledgement =>
    exact .of_call (.send [ascii "SUBSCRIBE", channel]) rfl
  | psubscribe pattern callback acknowledgement =>
    exact .of_call (.send [ascii "PSUBSCRIBE", pattern]) rfl
  | unsubscribe channel =>
    unfold Subscriber.unsubscribe
    split
    · exact .of_call (.send [ascii "UNSUBSCRIBE", channel]) rfl
    · exact .of_eq rfl
  | punsubscribe pattern =>
    unfold Subscriber.punsubscribe
    split
    · exact .of_call (.send [ascii "PUNSUBSCRIBE", pattern]) rfl
    · exact .of_eq rfl
  | commit =>
    refine .of_call .commit ?_
    unfold Subscriber.commit
    rw [Lens.after_zoom]
    rfl
  | disconnect => exact .of_call .disconnect rfl

theorem foldl_byCalls {α : Type} {f : Subscriber κ → α → Subscriber κ}
    (hf : ∀ s a, ByCalls connection s (f s a)) (as : List α) (s : Subscriber κ) :
    ByCalls connection s (as.foldl f s) := by
  induction as generalizing s with
  | nil => exact .of_eq rfl
  | cons a as ih => exact (hf s a).trans (ih (f s a))

theorem unprotectedSubscribe_byCalls (s : Subscriber κ) (chan : Bytes × CallbackHolder κ) :
    ByCalls connection s (s.unprotectedSubscribe chan.1 chan.2) :=
  .of_call (.send [ascii "SUBSCRIBE", chan.1]) rfl

theorem unprotectedPsubscribe_byCalls (s : Subscriber κ) (chan : Bytes × CallbackHolder κ) :
    ByCalls connection s (s.unprotectedPsubscribe chan.1 chan.2) :=
  .of_call (.send [ascii "PSUBSCRIBE", chan.1]) rfl

theorem reSubscribe_byCalls (s : Subscriber κ) : ByCalls connection s s.reSubscribe := by
  unfold reSubscribe
  dsimp only
  have hsub := foldl_byCalls unprotectedSubscribe_byCalls s.subscribedChannels.toList
    { s with subscribedChannels := ∅ }
  generalize s.subscribedChannels.toList.foldl _ _ = s₁ at hsub ⊢
  have hpsub := foldl_byCalls unprotectedPsubscribe_byCalls s₁.psubscribedChannels.toList
    { s₁ with psubscribedChannels := ∅ }
  generalize s₁.psubscribedChannels.toList.foldl _ _ = s₂ at hpsub ⊢
  obtain ⟨calls, hcalls⟩ := hsub
  obtain ⟨calls', hcalls'⟩ := hpsub
  have hfirst : ByCalls connection s s₁ := ⟨calls, hcalls⟩
  have hsecond : ByCalls connection s₁ s₂ := ⟨calls', hcalls'⟩
  exact hfirst.trans hsecond

theorem resume_byCalls :
    Follows (ByCalls connection) (resume : EStateM Fault (Subscriber κ) Unit) := by
  refine .bind (.modify fun s => ?_) fun _ => .bind (.modify reSubscribe_byCalls) fun _ => ?_
  · unfold reAuth
    split
    · exact .of_eq rfl
    · exact .of_call (.send [ascii "AUTH", s.password]) rfl
  · exact .zoom fun s => .of_call .commit rfl

/-- A connect callback that reaches the subscriber through its public functions
keeps the reconnection to calls of the connection. -/
theorem within_byCalls (hn : ∀ n, Follows Call (notify n)) :
    (owner notify).Within (ByCalls connection) where
  session _ _ h := Call.byCalls (.session h)
  notify n := (hn n).mono fun _ _ h => .single h.byCalls
  countAttempt _ := .of_eq rfl
  lose _ := .of_call .disconnect rfl
  resume := resume_byCalls
  giveUp := .modify fun _ => .of_eq rfl

section Replies

variable {user : EStateM Fault (Subscriber κ) Unit}

theorem invoke_byCalls (huser : Follows Call user) (invocation : Invocation κ) :
    Follows (ByCalls connection) (invoke invocation user) :=
  .bind (.modify fun _ => .of_eq rfl) fun _ => huser.mono fun _ _ h => .single h.byCalls

theorem callAcknowledgementCallback_byCalls (huser : Follows Call user) (channel : Bytes)
    (channels : Subscriptions κ) (nbChans : Int) :
    Follows (ByCalls connection) (callAcknowledgementCallback user channel channels nbChans) := by
  unfold callAcknowledgementCallback
  split
  · exact .pure _
  · split
    · exact invoke_byCalls huser _
    · exact .pure _

theorem callMessageCallback_byCalls (huser : Follows Call user) (key channel message : Bytes)
    (channels : Subscriptions κ) :
    Follows (ByCalls connection) (callMessageCallback user key channel message channels) := by
  unfold callMessageCallback
  split
  · exact .pure _
  · split
    · exact invoke_byCalls huser _
    · exact .throw _

theorem handleAcknowledgementReply_byCalls (huser : Follows Call user) (reply : List Reply) :
    Follows (ByCalls connection) (handleAcknowledgementReply user reply) := by
  unfold handleAcknowledgementReply
  split
  · split
    · refine .bind .get fun s => .ite ?_ (.ite ?_ (.pure _)) <;>
        exact callAcknowledgementCallback_byCalls huser _ _ _
    · exact .pure _
  · exact .pure _

theorem handleSubscribeReply_byCalls (huser : Follows Call user) (reply : List Reply) :
    Follows (ByCalls connection) (handleSubscribeReply user reply) := by
  unfold handleSubscribeReply
  split
  · split
    · exact .ite (.bind .get fun s => callMessageCallback_byCalls huser _ _ _ _) (.pure _)
    · exact .pure _
  · exact .pure _

theorem handlePsubscribeReply_byCalls (huser : Follows Call user) (reply : List Reply) :
    Follows (ByCalls connection) (handlePsubscribeReply user reply) := by
  unfold handlePsubscribeReply
  split
  · split
    · exact .ite (.bind .get fun s => callMessageCallback_byCalls huser _ _ _ _) (.pure _)
    · exact .pure _
  · exact .pure _

theorem handleAuthReply_byCalls (huser : Follows Call user) (reply : Reply) :
    Follows (ByCalls connection) (handleAuthReply user reply) := by
  unfold handleAuthReply
  refine .bind .get fun s => ?_
  split
  · exact .pure _
  · split
    · exact .bind (invoke_byCalls huser _) fun _ => .modify fun _ => .of_eq rfl
    · exact .modify fun _ => .of_eq rfl

end Replies

theorem connectionReceiveHandler_byCalls {user : Option (EStateM Fault (Subscriber κ) Unit)}
    (huser : ∀ p, user = some p → Follows Call p) (reply : Reply) :
    Follows (ByCalls connection) (connectionReceiveHandler user reply) := by
  have hcalled : Follows Call (user.getD (pure ())) := by
    cases user with
    | none => exact .pure _
    | some p => exact huser p rfl
  unfold connectionReceiveHandler
  dsimp only
  split
  · exact handleAuthReply_byCalls hcalled reply
  · split
    · refine .ite (handleAcknowledgementReply_byCalls hcalled _) (.ite ?_ (.pure _))
      exact handleSubscribeReply_byCalls hcalled _
    · exact handlePsubscribeReply_byCalls hcalled _
    · exact .pure _

theorem calls_byCalls {s s' : Subscriber κ} (h : Relation.ReflTransGen Call s s') :
    ByCalls connection s s' := by
  induction h with
  | refl => exact .of_eq rfl
  | tail _ hstep ih => exact ih.trans hstep.byCalls

/-- The other threads, too, call public functions. -/
theorem connectionDisconnectionHandler_byCalls (hn : ∀ n, Follows Call (notify n))
    {others : Subscriber κ → Subscriber κ} (hothers : ∀ s, Relation.ReflTransGen Call s (others s))
    (attempts : List Attempt) :
    Follows (ByCalls connection) (connectionDisconnectionHandler notify others attempts) :=
  (within_byCalls hn).connectionDisconnectionHandler_follows (fun _ => .of_eq rfl)
    (fun _ => .of_eq rfl) (fun s => .single (calls_byCalls (hothers s))) attempts

/-- What a read does to the connection of a subscriber, callbacks included. -/
theorem receive_step (hn : ∀ n, Follows Call (notify n))
    {users : List (EStateM Fault (Subscriber κ) Unit)} (husers : ∀ p ∈ users, Follows Call p)
    {others : Subscriber κ → Subscriber κ} (hothers : ∀ s, Relation.ReflTransGen Call s (others s))
    (data : Bytes) (attempts : List Attempt) {s : Subscriber κ} (hset : CallbacksSet s.client) :
    ∃ replies handler, (after (receive notify (some data) users others attempts)
        (connection.update completeRead s)).client = step s.client (.read data replies handler) :=
  tcpClientReceiveHandler_step connection
    (fun _ hinput reply => connectionReceiveHandler_byCalls
      (fun p hp => husers p (hinput p hp)) reply)
    (connectionDisconnectionHandler_byCalls hn hothers attempts) data hset

/-- What a lost connection of a subscriber goes through. -/
theorem drop_step (hn : ∀ n, Follows Call (notify n)) {before others : Subscriber κ → Subscriber κ}
    (hbefore : ∀ s, Relation.ReflTransGen Call s (before s))
    (hothers : ∀ s, Relation.ReflTransGen Call s (others s)) (attempts : List Attempt)
    {s : Subscriber κ} (hset : CallbacksSet s.client) :
    ∃ calls handler, (after (drop notify before others attempts) s).client =
      step s.client (.drop calls handler) := by
  obtain ⟨calls, hcalls⟩ := calls_byCalls (hbefore (connection.update RedisConnection.lose s))
  have hset' : CallbacksSet (connection.get (before (connection.update RedisConnection.lose s))) := by
    rw [hcalls]
    exact (callAll_kept calls _).2 hset
  obtain ⟨handler, hhandler⟩ := tcpClientDisconnectionHandler_step connection
    (connectionDisconnectionHandler_byCalls hn hothers attempts) hset'
  rw [hcalls] at hhandler
  exact ⟨calls, handler, hhandler⟩

/-! ### Runs -/

/-- Only a request that is outstanding completes, and only an open connection is lost. -/
def Event.CanHappen (s : Subscriber κ) : Event κ → Prop
  | .receive _ _ _ _ => 0 < s.client.client.reads
  | .drop _ _ _ => s.client.client.connected = true
  | _ => True

/-- A subscriber whose users call its public functions, and which is read by request. -/
def overConnection (notify : Notification → EStateM Fault (Subscriber κ) Unit) :
    Machine (Subscriber κ) (Event κ) where
  enabled s e := e.Uses Call ∧ e.CanHappen s
  step s e :=
    match e with
    | .receive _ _ _ _ => e.run notify (connection.update completeRead s)
    | _ => e.run notify s

/-- What an event of a subscriber is for its connection. -/
theorem overConnection_amounts (hn : ∀ n, Follows Call (notify n)) (s : Subscriber κ) (e : Event κ)
    (hw : Wired s.client) (he : (overConnection notify).enabled s e) :
    Amounts s.client ((overConnection notify).step s e).client := by
  have hcalls : (owner notify).Calls (ByCalls connection) := (within_byCalls hn).toCalls
  obtain ⟨huses, hcan⟩ := he
  cases e with
  | user code =>
    have hcode := Follows.mono huses fun _ _ h => .single (Call.byCalls h)
    exact (ByCalls.of_follows hcode s).amounts
  | connect p accepted => exact (ByCalls.of_follows (hcalls.connect_follows p accepted) s).amounts
  | connectByName name p lookup accepted =>
    exact (ByCalls.of_follows (hcalls.connectByName_follows _ name p lookup accepted) s).amounts
  | receive result users others attempts =>
    cases result with
    -- a failed read calls nobody
    | none => exact .event .failedRead hcan rfl
    | some data =>
      obtain ⟨replies, handler, hstep⟩ := receive_step hn huses.1 huses.2 data attempts
        (hw.callbacksSet (hw.connected hcan))
      exact .event (.read data replies handler) hcan hstep
  | drop before others attempts =>
    obtain ⟨calls, handler, hstep⟩ :=
      drop_step hn huses.1 huses.2 attempts (hw.callbacksSet hcan)
    exact .event (.drop calls handler) hcan hstep

/-- The same for a subscriber. -/
theorem subscriber_reading_iff (hn : ∀ n, Follows Call (notify n)) (t : Session) (what : String)
    {events : List (Event κ)}
    (h : (overConnection notify).Possible
      { toSession := { t with client := { client := { what := what } } } } events) :
    let s : Subscriber κ := { toSession := { t with client := { client := { what := what } } } }
    ∃ run, RedisConnection.machine.Possible s.client run ∧
      RedisConnection.machine.run s.client run = ((overConnection notify).run s events).client ∧
      ((overConnection notify).Always (fun s => RedisConnection.Reading s.client) s events ↔
        RedisConnection.machine.Along Resumes s.client run) :=
  reading_iff_of_amounts (f := fun s : Subscriber κ => s.client) (overConnection_amounts hn) h
    (.new what) (.new what)

end Subscriber

/-! ## The sentinel -/

namespace SentinelClient

variable {κ : Type}

theorem Call.byCalls (s : SentinelClient κ) (call : Call κ) : ByCalls connection s (call.run s) := by
  cases call with
  | send redisCmd callback => exact .of_call (.send redisCmd) rfl
  | commit =>
    have hcommit : Follows (ByCalls connection) (SentinelClient.commit (κ := κ)) := by
      unfold SentinelClient.commit tryCommit
      refine .tryCatch (.zoom fun _ => .of_call .commit rfl) fun e => ?_
      cases e with
      | redisError what => exact .bind (.modify fun _ => .of_eq rfl) fun _ => .throw _
      | _ => exact .throw _
    exact .of_follows hcommit s

theorem calling_byCalls (calls : List (Call κ)) : Follows (ByCalls connection) (calling calls) := by
  refine .modify fun s => ?_
  induction calls generalizing s with
  | nil => exact .of_eq rfl
  | cons call calls ih => exact (call.byCalls s).trans (ih _)

theorem connect_byCalls (host : Bytes) (port : Nat) (disconnectHandler : Bool) (timeoutMsecs : Nat)
    (accepted : Bool) : Follows (ByCalls connection)
      (connect host port disconnectHandler timeoutMsecs accepted :
        EStateM Fault (SentinelClient κ) Unit) :=
  .bind (.zoom fun _ => .of_call (.connect host port timeoutMsecs accepted) rfl) fun _ =>
    .modify fun _ => .of_eq rfl

theorem trySentinels_byCalls (sentinels : List SentinelDef) (reachable : List Bool) :
    Follows (ByCalls connection)
      (trySentinels sentinels reachable : EStateM Fault (SentinelClient κ) Bool) := by
  induction sentinels generalizing reachable with
  | nil => exact .pure _
  | cons it rest ih =>
    unfold trySentinels
    refine .bind (.tryCatch (.zoom fun _ => .of_call (.connect _ _ _ _) rfl) fun e => ?_) fun _ =>
      .bind .get fun s => .ite (.pure _) (.bind (.modify fun _ => .of_call .disconnect rfl) fun _ =>
        ih reachable.tail)
    cases e with
    | redisError what => exact .pure _
    | _ => exact .throw _

theorem connectSentinel_byCalls (disconnectHandler : Bool) (reachable : List Bool) :
    Follows (ByCalls connection)
      (connectSentinel disconnectHandler reachable : EStateM Fault (SentinelClient κ) Unit) := by
  unfold connectSentinel
  refine .bind .get fun s => .ite (.throw _) (.bind .get fun s => ?_)
  exact .bind (trySentinels_byCalls _ reachable) fun _ => .ite (.throw _)
    (.modify fun _ => .of_eq rfl)

theorem connectionReceiveHandler_byCalls {user : Option (EStateM Fault (SentinelClient κ) Unit)}
    (huser : ∀ p, user = some p → Follows (ByCalls connection) p) (reply : Reply) :
    Follows (ByCalls connection) (connectionReceiveHandler user reply) := by
  have hcalled : Follows (ByCalls connection) (user.getD (pure ())) := by
    cases user with
    | none => exact .pure _
    | some p => exact huser p rfl
  refine .bind .get fun s => .bind (.modify fun _ => .of_eq rfl) fun _ => .bind ?_ fun _ =>
    .modify fun _ => .of_eq rfl
  exact .bind (.modify fun _ => .of_eq rfl) fun _ => .ite hcalled (.pure _)

theorem connectionDisconnectHandler_byCalls {user : EStateM Fault (SentinelClient κ) Unit}
    (huser : Follows (ByCalls connection) user) :
    Follows (ByCalls connection) (connectionDisconnectHandler user) :=
  .bind (.modify fun _ => .of_eq rfl) fun _ => .bind (.bind .get fun _ => .ite huser (.pure _))
    fun _ => .pure _

/-- What a read does to the connection of a sentinel, callbacks included. -/
theorem receive_step {users : List (EStateM Fault (SentinelClient κ) Unit)}
    (husers : ∀ p ∈ users, Follows (ByCalls connection) p)
    {user : EStateM Fault (SentinelClient κ) Unit} (huser : Follows (ByCalls connection) user)
    (data : Bytes) {s : SentinelClient κ} (hset : CallbacksSet s.client) :
    ∃ replies handler, (after (receive (some data) users user)
        (connection.update completeRead s)).client = step s.client (.read data replies handler) :=
  tcpClientReceiveHandler_step connection
    (fun _ hinput reply => connectionReceiveHandler_byCalls
      (fun p hp => husers p (hinput p hp)) reply)
    (connectionDisconnectHandler_byCalls huser) data hset

/-- What a lost connection of a sentinel goes through. -/
theorem drop_step {user : EStateM Fault (SentinelClient κ) Unit}
    (huser : Follows (ByCalls connection) user) {s : SentinelClient κ}
    (hset : CallbacksSet s.client) :
    ∃ handler, (after (drop user) s).client = step s.client (.drop [] handler) :=
  tcpClientDisconnectionHandler_step connection (connectionDisconnectHandler_byCalls huser)
    (s := connection.update RedisConnection.lose s) hset

/-! ### Runs -/

namespace World

/-- What an event of a sentinel is for its connection. -/
theorem amounts (w : World κ) (e : Event κ) (hw : Wired w.sentinel.client)
    (he : machine.enabled w e) :
    Amounts w.sentinel.client (machine.step w e).sentinel.client := by
  cases e with
  | call call => exact (call.byCalls w.sentinel).amounts
  | connect host port disconnectHandler timeoutMsecs accepted =>
    exact (ByCalls.of_follows (connect_byCalls _ _ _ _ _) w.sentinel).amounts
  | connectSentinel disconnectHandler reachable =>
    exact (ByCalls.of_follows (connectSentinel_byCalls _ _) w.sentinel).amounts
  | disconnect => exact .calls [.disconnect] rfl
  | chunk size callbacks =>
    have husers : ∀ p ∈ callbacks.map calling, Follows (ByCalls connection) p := by
      intro p hp
      obtain ⟨calls, -, rfl⟩ := List.mem_map.mp hp
      exact calling_byCalls calls
    obtain ⟨replies, handler, hstep⟩ := receive_step husers (.pure ()) (w.inFlight.take size)
      (hw.callbacksSet he.1)
    exact .event (.read _ replies handler) he.2 hstep
  | drop calls =>
    obtain ⟨handler, hstep⟩ := drop_step (calling_byCalls calls) (hw.callbacksSet he)
    exact .event (.drop [] handler) he hstep
  | _ => exact .calls [] rfl

/-- The same for a sentinel, whose callbacks send and commit. -/
theorem sentinel_reading_iff (what : String) {events : List (Event κ)}
    (h : machine.Possible (new what) events) :
    ∃ run, RedisConnection.machine.Possible (new (κ := κ) what).sentinel.client run ∧
      RedisConnection.machine.run (new (κ := κ) what).sentinel.client run =
        (machine.run (new what) events).sentinel.client ∧
      (machine.Always (fun w => RedisConnection.Reading w.sentinel.client) (new what) events ↔
        RedisConnection.machine.Along Resumes (new (κ := κ) what).sentinel.client run) :=
  reading_iff_of_amounts (f := fun w : World κ => w.sentinel.client) amounts h (.new what)
    (.new what)

end World

end SentinelClient

end CppRedis
