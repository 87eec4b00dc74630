import CppRedis.Flag
import CppRedis.Runs
import CppRedis.Targets

/-!
# Cancelled reconnection

`cancel_reconnect` sets `m_cancel`, and nothing clears it. The loop of the disconnection
handler asks for it before each turn, so from then on a lost connection is given up at once,
whatever the number of reconnections that are left.

* `Session.Cancelled dialled s`: the reconnection is cancelled, and this is what was dialled.
* `Owner.connectionDisconnectionHandler_cancelled`: the handler does not dial any more.
  `Owner.connect_cancelled`: only the user's `connect` does.
* `Client.NonDialling`, `Subscriber.NonDialling`: the calls other than `connect`, which are what
  the user's callbacks may do here.
* `Client.client_cancelled`, `Subscriber.subscriber_cancelled`: in every run after the
  cancellation, what is dialled are endpoints of the user's own calls of `connect`, at most once
  for each and in their order; how attempts to reconnect would end makes no difference; and
  where the connect callback does not throw, `m_reconnecting` is clear after every event.
-/

namespace CppRedis

open Text Procedure

/-! ## The session -/

namespace RedisConnection

/-- A connection attempt, whether it is accepted or not, is one endpoint dialled. -/
theorem connect_dialled (host : Bytes) (port : Nat) (d r : Bool) (timeoutMsecs : Nat) (accepted : Bool)
    (c : RedisConnection) :
    (after (connect host port d r timeoutMsecs accepted) c).client.dialled =
      c.client.dialled ++ [⟨host, port % 2 ^ 32, timeoutMsecs⟩] := by
  by_cases hrefused : c.client.connected = true ∨ accepted = false
  · rw [after_error (connect_refused host port d r timeoutMsecs hrefused)]
    rfl
  · obtain ⟨hclosed, haccepted⟩ := not_or.mp hrefused
    rw [Bool.not_eq_false] at haccepted
    rw [haccepted, after_ok (connect_accepted host port d r timeoutMsecs
      (Bool.eq_false_iff.mpr hclosed))]
    rfl

theorem asyncRead_dialled (c : RedisConnection) :
    (after (tcp.zoom TcpClient.asyncRead) c).client.dialled = c.client.dialled := by
  rw [Lens.after_zoom]
  show (after TcpClient.asyncRead c.client).dialled = _
  unfold after TcpClient.asyncRead
  by_cases hc : c.client.connected = true
  · rw [if_pos hc]
  · rw [if_neg hc]

theorem commit_dialled (c : RedisConnection) : (after commit c).client.dialled = c.client.dialled := by
  cases hc : c.client.connected with
  | true =>
    rw [after_ok (commit_connected hc)]
    rfl
  | false =>
    rw [after_error (commit_disconnected hc)]
    rfl

end RedisConnection

namespace Session

/-- The reconnection is cancelled, and this is what was dialled. -/
structure Cancelled (dialled : List Endpoint) (s : Session) : Prop where
  cancel : s.cancel = true
  dialled : s.client.client.dialled = dialled

/-- The endpoint that `connect` dials. -/
def ConnectParams.endpoint (p : ConnectParams) : Endpoint :=
  ⟨p.host, p.port % 2 ^ 32, p.timeoutMsecs⟩

/-- The endpoint that `connect` by name dials, where the lookup has found one. -/
def ConnectParams.named (p : ConnectParams) : Lookup → List Endpoint
  | .found host port => [{ p with host := host, port := port }.endpoint]
  | _ => []

/-- The address that a lookup gives is the one it has found. -/
theorem found_of_resolved {lookup : Lookup} {s : Session} {host : Bytes} {port : Nat}
    (h : s.resolved lookup = some (host, port)) : lookup = .found host port := by
  cases lookup with
  | found host' port' =>
    simp only [resolved, Option.ite_none_left_eq_some, Option.some.injEq, Prod.mk.injEq] at h
    rw [h.2.1, h.2.2]
  | _ => cases h

/-- No public function clears `m_cancel`. -/
theorem Call.cancel {s t : Session} (h : Call s t) (hs : s.cancel = true) : t.cancel = true := by
  cases h with
  | cancelReconnect => rfl
  | lookup lookup =>
    obtain ⟨host, port, h⟩ := s.after_getMasterAddrByName lookup
    rw [h]
    exact hs
  | dial host port timeoutMsecs accepted =>
    rw [Lens.after_zoom]
    exact hs
  | _ => exact hs

end Session

/-! ## Owners -/

namespace Owner

variable {σ : Type} {o : Owner σ} {dialled : List Endpoint} {s : σ}

variable (o) in
def Cancelled (dialled : List Endpoint) (s : σ) : Prop :=
  (o.session.get s).Cancelled dialled

/-- The loop is left before its first turn. -/
theorem reconnectLoop_cancelled (attempts : List Attempt) (hs : (o.session.get s).cancel = true) :
    o.reconnectLoop attempts s = .ok true s := by
  have hshould : (o.session.get s).shouldReconnect = false :=
    Bool.eq_false_iff.mpr fun hshould =>
      Bool.noConfusion ((Session.shouldReconnect_iff.mp hshould).2.1.symm.trans hs)
  cases attempts with
  | nil =>
    unfold reconnectLoop
    rw [get_bind, hshould]
    rfl
  | cons a attempts =>
    unfold reconnectLoop
    rw [get_bind, hshould]
    rfl

variable (o) in
/-- The state in which the handler takes the lock. -/
def locked (others : σ → σ) (s : σ) : σ :=
  others (after (o.notifyState .dropped) (o.session.update Session.beginReconnection s))

/-- So it makes no difference what the attempts would be. -/
theorem connectionDisconnectionHandler_unattended {others : σ → σ} (attempts : List Attempt)
    (hs : (o.session.get (o.locked others s)).cancel = true) :
    o.connectionDisconnectionHandler others attempts s =
      o.connectionDisconnectionHandler others [] s := by
  unfold connectionDisconnectionHandler
  rw [get_bind, get_bind]
  split
  · rfl
  · rw [modify_bind, modify_bind]
    cases hnotify : o.notifyState .dropped (o.session.update Session.beginReconnection s) with
    | error e s₁ => rw [bind_error hnotify, bind_error hnotify]
    | ok u s₁ =>
      unfold locked at hs
      rw [after_ok hnotify] at hs
      rw [bind_ok hnotify, bind_ok hnotify, modify_bind, modify_bind,
        bind_ok (reconnectLoop_cancelled attempts hs), bind_ok (reconnectLoop_cancelled [] hs)]

section Keeping

/-- A change of the session that neither dials nor clears `m_cancel`. -/
theorem keeping_update {f : Session → Session}
    (hf : ∀ t : Session, t.Cancelled dialled → (f t).Cancelled dialled) (s : σ) :
    Keeping (o.Cancelled dialled) s (o.session.update f s) := by
  intro hs
  show (o.session.get (o.session.set _ s)).Cancelled dialled
  rw [o.session.get_set]
  exact hf _ hs

theorem callConnectCallback_keeping (hn : ∀ n, Follows (Keeping (o.Cancelled dialled)) (o.notify n))
    (host : Bytes) (port : Nat) (state : ConnectState) :
    Follows (Keeping (o.Cancelled dialled)) (o.callConnectCallback host port state) := by
  refine .bind .get fun _ => .ite (.bind (.modify ?_) fun _ => hn _) (.pure _)
  exact keeping_update fun _ ht => ⟨ht.cancel, ht.dialled⟩

theorem notifyState_keeping (hn : ∀ n, Follows (Keeping (o.Cancelled dialled)) (o.notify n))
    (state : ConnectState) : Follows (Keeping (o.Cancelled dialled)) (o.notifyState state) :=
  .bind .get fun _ => callConnectCallback_keeping hn _ _ _

theorem locked_cancelled (hn : ∀ n, Follows (Keeping (o.Cancelled dialled)) (o.notify n))
    {others : σ → σ} (hothers : ∀ s, Keeping (o.Cancelled dialled) s (others s))
    (hs : o.Cancelled dialled s) : o.Cancelled dialled (o.locked others s) := by
  have hbegun : o.Cancelled dialled (o.session.update Session.beginReconnection s) :=
    keeping_update (f := Session.beginReconnection) (fun _ ht => ⟨ht.cancel, ht.dialled⟩) s hs
  exact hothers _ ((notifyState_keeping hn .dropped).keeping hbegun)

/-- The handler gives up without dialling. -/
theorem connectionDisconnectionHandler_cancelled
    (hn : ∀ n, Follows (Keeping (o.Cancelled dialled)) (o.notify n))
    (hgiveUp : Follows (Keeping (o.Cancelled dialled)) o.giveUp) {others : σ → σ}
    (hothers : ∀ s, Keeping (o.Cancelled dialled) s (others s)) (attempts : List Attempt) :
    Follows (Keeping (o.Cancelled dialled)) (o.connectionDisconnectionHandler others attempts) := by
  unfold connectionDisconnectionHandler finishReconnection
  refine .bind .get fun _ => .ite (.pure _) (.bind (.modify ?_) fun _ => ?_)
  · exact keeping_update fun _ ht => ⟨ht.cancel, ht.dialled⟩
  refine .bind (notifyState_keeping hn _) fun _ => .bind (.modify hothers) fun _ => ?_
  refine .bind (.of_keeping fun s hs => ?_) fun left => .ite ?_ (.pure _)
  · rw [after_ok (reconnectLoop_cancelled attempts hs.cancel)]
    exact hs
  · have hend : Follows (Keeping (o.Cancelled dialled))
        (modify (o.session.update Session.endReconnection) : EStateM Fault σ PUnit) :=
      .modify (keeping_update fun _ ht => ⟨ht.cancel, ht.dialled⟩)
    refine .bind (.bind .get fun _ => .ite ?_ hend) fun _ => .pure _
    exact .bind hgiveUp fun _ => .bind (notifyState_keeping hn _) fun _ => hend

end Keeping

/-- Where the connect callback does not throw, the handler is left and clears the flag. -/
theorem connectionDisconnectionHandler_idle (h : KeepsFlag o)
    (hreturns : ∀ n s, Returns (o.notify n) s) {others : σ → σ}
    (hothers : ∀ s, o.SameFlag s (others s))
    (attempts : List Attempt) (hs : (o.session.get (o.locked others s)).cancel = true)
    (hidle : (o.session.get s).reconnecting = false) :
    (o.session.get (after (o.connectionDisconnectionHandler others attempts) s)).reconnecting =
      false := by
  have hcallback (state : ConnectState) (s : σ) : o.CallbackReturns state s := fun _ => hreturns _ _
  have hloop := reconnectLoop_cancelled attempts hs
  refine (connectionDisconnectionHandler_released h hothers ?_).mpr
    ⟨hidle, hcallback _ _, ?_, fun _ => hcallback _ _⟩
  · obtain ⟨_, s₁, hdropped⟩ := (notifyState_returns .dropped _).mpr
      (hcallback .dropped (o.session.update Session.beginReconnection s))
    unfold locked at hloop
    rw [after_ok hdropped] at hloop
    unfold Leaves connectionDisconnectionHandler
    rw [value_get_bind, hidle, if_neg Bool.false_ne_true, value_modify_bind, value_bind_ok hdropped,
      value_modify_bind, value_bind_ok hloop, if_pos rfl]
    unfold value
    cases hfinish : o.finishReconnection (others s₁) with
    | ok u s₂ =>
      rw [bind_ok hfinish]
      exact fun hf => Bool.noConfusion (Option.some.inj hf)
    | error e s₂ =>
      rw [bind_error hfinish]
      exact nofun
  · have hshould : ¬ (o.session.get (o.locked others s)).shouldReconnect = true :=
      fun hshould => Bool.noConfusion ((Session.shouldReconnect_iff.mp hshould).2.1.symm.trans hs)
    cases attempts with
    | nil => trivial
    | cons a attempts => exact fun h => absurd h hshould

/-- `connect` dials at most once, and the endpoint that it was given. -/
theorem connect_cancelled
    (hn : ∀ dialled n, Follows (Keeping (o.Cancelled dialled)) (o.notify n))
    (p : Session.ConnectParams) (accepted : Bool) (hs : o.Cancelled dialled s) :
    ∃ new : List Endpoint, new.Sublist [p.endpoint] ∧
      o.Cancelled (dialled ++ new) (after (o.connect p accepted) s) := by
  unfold Owner.connect
  rw [after_modify_bind]
  have hsaved : o.Cancelled dialled (o.session.update (·.saveConnect p) s) :=
    keeping_update (f := (·.saveConnect p)) (fun _ ht => ⟨ht.cancel, ht.dialled⟩) s hs
  have hstart := (callConnectCallback_keeping (hn dialled) p.host p.port .start).keeping hsaved
  cases hcall : o.callConnectCallback p.host p.port .start
      (o.session.update (·.saveConnect p) s) with
  | error e s₁ =>
    rw [after_error hcall] at hstart
    rw [after_bind_error hcall]
    refine ⟨[], List.nil_sublist _, ?_⟩
    rw [List.append_nil]
    exact hstart
  | ok u s₁ =>
    rw [after_ok hcall] at hstart
    rw [after_bind_ok hcall]
    refine ⟨[p.endpoint], .refl _, Follows.keeping_bind ?_ fun _ => notifyState_keeping (hn _) .ok⟩
    rw [Lens.after_zoom, Lens.after_zoom]
    unfold Owner.Cancelled
    rw [o.session.get_set]
    refine ⟨hstart.cancel, (RedisConnection.connect_dialled _ _ _ _ _ _ _).trans ?_⟩
    exact congrArg (· ++ [p.endpoint]) hstart.dialled

/-- The same by the name of the master. Where it is not found, nothing is dialled. -/
theorem connectByName_cancelled
    (hn : ∀ dialled n, Follows (Keeping (o.Cancelled dialled)) (o.notify n)) (what : String)
    (name : Bytes) (p : Session.ConnectParams) (lookup : Lookup) (accepted : Bool)
    (hs : o.Cancelled dialled s) :
    ∃ new : List Endpoint, new.Sublist (p.named lookup) ∧
      o.Cancelled (dialled ++ new) (after (o.connectByName what name p lookup accepted) s) := by
  unfold Owner.connectByName
  rw [after_modify_bind]
  have hnamed : o.Cancelled dialled (o.session.update (fun t => { t with masterName := name }) s) :=
    keeping_update (f := fun t => { t with masterName := name })
      (fun _ ht => ⟨ht.cancel, ht.dialled⟩) s hs
  generalize o.session.update (fun t => { t with masterName := name }) s = s₁ at hnamed
  have hasked (host : Bytes) (port : Nat) : o.Cancelled dialled
      (o.session.set { o.session.get s₁ with redisServer := host, redisPort := port } s₁) :=
    keeping_update (f := fun t => { t with redisServer := host, redisPort := port })
      (fun _ ht => ⟨ht.cancel, ht.dialled⟩) s₁ hnamed
  rcases Session.getMasterAddrByName_cases lookup (o.session.get s₁) with
    ⟨host, port, hresolved, hfound⟩ | ⟨-, host, port, hnone | ⟨e, hthrown⟩⟩
  · rw [after_bind_ok (o.session.zoom_ok hfound), if_pos rfl, after_get_bind]
    dsimp only
    rw [o.session.get_set, Session.found_of_resolved hresolved]
    exact connect_cancelled hn { p with host := host, port := port } accepted (hasked host port)
  · rw [after_bind_ok (o.session.zoom_ok hnone), if_neg Bool.false_ne_true]
    refine ⟨[], List.nil_sublist _, ?_⟩
    rw [List.append_nil]
    exact hasked host port
  · rw [after_bind_error (o.session.zoom_error hthrown)]
    refine ⟨[], List.nil_sublist _, ?_⟩
    rw [List.append_nil]
    exact hasked host port

/-- What the handlers of the connection do to it themselves neither dials nor touches the rest of
the session. -/
theorem handlersWithin_keeping {I : Session → Prop}
    (hI : ∀ (t : Session) (c : RedisConnection), c.client.dialled = t.client.client.dialled →
      I t → I { t with client := c }) (l : Lens σ Session) :
    HandlersWithin (l.comp Session.connection) (Keeping fun s => I (l.get s)) where
  parse s builder hs := by
    show I (l.get (l.set _ s))
    rw [l.get_set]
    exact hI _ _ rfl hs
  asyncRead := .zoom fun s hs => by
    show I (l.get (l.set _ s))
    rw [l.get_set]
    exact hI _ _ (RedisConnection.asyncRead_dialled _) hs
  clear s hs := by
    show I (l.get (l.set _ s))
    rw [l.get_set]
    exact hI _ _ rfl hs

end Owner

/-! ## The handlers of a connection -/

section Handlers

variable {σ ι : Type} {connection : Lens σ RedisConnection}
  {disconnected disconnected' : EStateM Fault σ Bool} {s : σ}

theorem callDisconnectionHandler_congr (h : disconnected s = disconnected' s) :
    callDisconnectionHandler connection disconnected s =
      callDisconnectionHandler connection disconnected' s := by
  unfold callDisconnectionHandler
  rw [get_bind, get_bind]
  split
  · exact h
  · rfl

/-- A read calls the disconnection handler, if at all, right after it was parsed. -/
theorem tcpClientReceiveHandler_congr
    (h : ∀ builder, disconnected (connection.set { connection.get s with builder := builder } s) =
      disconnected' (connection.set { connection.get s with builder := builder } s))
    (receive : Option ι → Reply → EStateM Fault σ Unit) (result : ReadResult) (inputs : List ι) :
    tcpClientReceiveHandler connection receive disconnected result inputs s =
      tcpClientReceiveHandler connection receive disconnected' result inputs s := by
  cases result with
  | none => rfl
  | some data =>
    unfold tcpClientReceiveHandler
    dsimp only
    rw [get_bind, get_bind, modify_bind, modify_bind]
    cases ((connection.get s).builder.feed data).2 with
    | ok u => rfl
    | error e =>
      cases e with
      | redisError what => exact callDisconnectionHandler_congr (h _)
      | _ => rfl

theorem tcpClientDisconnectionHandler_congr
    (h : disconnected (connection.update RedisConnection.clear s) =
      disconnected' (connection.update RedisConnection.clear s)) :
    tcpClientDisconnectionHandler connection disconnected s =
      tcpClientDisconnectionHandler connection disconnected' s := by
  unfold tcpClientDisconnectionHandler
  rw [modify_bind, modify_bind]
  exact callDisconnectionHandler_congr h

end Handlers

/-! ## Runs -/

section Runs

variable {σ ε : Type} {m : Machine σ ε} {session : Lens σ Session} {dials : ε → List Endpoint}
  {unattended : ε → ε} {quiet : Prop}

/-- What every event does once the reconnection is cancelled. -/
structure Rests (m : Machine σ ε) (session : Lens σ Session) (dials : ε → List Endpoint)
    (unattended : ε → ε) (quiet : Prop) : Prop where
  cancelled : ∀ {dialled : List Endpoint} {s e}, m.enabled s e → (session.get s).Cancelled dialled →
    ∃ new : List Endpoint, new.Sublist (dials e) ∧
      (session.get (m.step s e)).Cancelled (dialled ++ new)
  unattended : ∀ {s e}, m.enabled s e → (session.get s).cancel = true →
    m.step s (unattended e) = m.step s e
  idle : quiet → ∀ {s e}, m.enabled s e → (session.get s).cancel = true →
    (session.get s).reconnecting = false → (session.get (m.step s e)).reconnecting = false

/-- By induction on the events: so does every run. -/
theorem Rests.run (h : Rests m session dials unattended quiet) {s : σ} {events : List ε}
    (hs : (session.get s).cancel = true) (hpossible : m.Possible s events) :
    let s' := m.run s events
    (session.get s').cancel = true ∧
      (∃ new : List Endpoint, new.Sublist (events.flatMap dials) ∧
        (session.get s').client.client.dialled = (session.get s).client.client.dialled ++ new) ∧
      m.run s (events.map unattended) = s' ∧
      (quiet → (session.get s).reconnecting = false → (session.get s').reconnecting = false) := by
  induction events generalizing s with
  | nil => exact ⟨hs, ⟨[], .refl _, (List.append_nil _).symm⟩, rfl, fun _ hidle => hidle⟩
  | cons e events ih =>
    obtain ⟨new, hnew, hcancelled⟩ := h.cancelled hpossible.1 ⟨hs, rfl⟩
    obtain ⟨hcancel, ⟨later, hlater, hdialled⟩, hrun, hidle⟩ := ih hcancelled.cancel hpossible.2
    refine ⟨hcancel, ⟨new ++ later, hnew.append hlater, ?_⟩, ?_, fun hquiet hs' => ?_⟩
    · refine hdialled.trans ?_
      rw [← List.append_assoc]
      exact congrArg (· ++ later) hcancelled.dialled
    · show m.run (m.step s (unattended e)) (events.map unattended) = _
      rw [h.unattended hpossible.1 hs]
      exact hrun
    · exact hidle hquiet (h.idle hquiet hpossible.1 hs hs')

end Runs

/-! ## The client -/

namespace Client

variable {κ : Type} {c c' : Client κ} {dialled : List Endpoint}

theorem tryCommit_cancel (c : Client κ) : (after tryCommit c).cancel = c.cancel := by
  cases hc : c.client.client.connected with
  | true =>
    rw [after_ok (tryCommit_connected hc)]
    rfl
  | false =>
    rw [after_error (tryCommit_disconnected hc)]
    unfold clearCallbacks
    split <;> rfl

theorem Call.cancel (h : Call c c') (hc : c.cancel = true) : c'.cancel = true := by
  cases h with
  | session h => exact h.cancel hc
  | commit =>
    unfold Client.commit
    rw [after_get_bind]
    split
    · exact (tryCommit_cancel c).trans hc
    · exact hc
  | disconnect => exact (congrArg Session.cancel (clearCallbacks_session _)).trans hc
  | _ => exact hc

/-- A public function other than `connect`. -/
structure NonDialling (c c' : Client κ) : Prop where
  call : Call c c'
  dialled : c'.client.client.dialled = c.client.client.dialled

theorem NonDialling.keeping (h : NonDialling c c') :
    Keeping (fun c : Client κ => c.toSession.Cancelled dialled) c c' :=
  fun hc => ⟨h.call.cancel hc.cancel, h.dialled.trans hc.dialled⟩

theorem nonDialling_keeping {p : EStateM Fault (Client κ) Unit} (h : Follows NonDialling p) :
    Follows (Keeping fun c : Client κ => c.toSession.Cancelled dialled) p :=
  h.mono fun _ _ hstep => .single hstep.keeping

/-- The endpoints that an event asks to dial. -/
def Event.dials : Event κ → List Endpoint
  | .connect p _ => [p.endpoint]
  | .connectByName _ p lookup _ => p.named lookup
  | _ => []

/-- The event without any attempts to reconnect. -/
def Event.unattended : Event κ → Event κ
  | .receive result users others _ => .receive result users others []
  | .drop before others _ => .drop before others []
  | e => e

section Events

variable {notify : Notification → Program κ}

/-- The handlers keep what the user's code keeps, once the reconnection is cancelled. -/
theorem Event.keeping {I : Session → Prop}
    (hI : ∀ (t : Session) (r : RedisConnection), r.client.dialled = t.client.client.dialled →
      I t → I { t with client := r })
    (hcall : ∀ c c' : Client κ, NonDialling c c' → I c.toSession → I c'.toSession)
    (hhandler : ∀ {others : EStateM Fault (Client κ) Unit}, Follows NonDialling others →
      ∀ attempts, Follows (Keeping fun c : Client κ => I c.toSession)
        (connectionDisconnectionHandler (told notify) (after others) attempts))
    {e : Event κ} (h : e.Uses NonDialling c) (hconnect : ∀ p accepted, e ≠ .connect p accepted)
    (hbyName : ∀ name p lookup accepted, e ≠ .connectByName name p lookup accepted)
    (hc : I c.toSession) : I (e.run notify c).toSession := by
  have hw : HandlersWithin (connection : Lens (Client κ) RedisConnection)
      (Keeping fun c : Client κ => I c.toSession) := Owner.handlersWithin_keeping hI session
  have huser {p : EStateM Fault (Client κ) Unit} (hp : Follows NonDialling p) :
      Follows (Keeping fun c : Client κ => I c.toSession) p :=
    hp.mono fun c c' hstep => .single (hcall c c' hstep)
  cases e with
  | send redisCmd callback => exact hcall _ _ h hc
  | auth password callback => exact hcall _ _ h hc
  | select index callback => exact hcall _ _ h hc
  | commit => exact hcall _ _ h hc
  | disconnect => exact hcall _ _ h hc
  | connect p accepted => exact absurd rfl (hconnect p accepted)
  | connectByName name p lookup accepted => exact absurd rfl (hbyName name p lookup accepted)
  | cancelReconnect => exact hcall _ _ ⟨.session .cancelReconnect, rfl⟩ hc
  | addSentinel sentinel => exact hcall _ _ ⟨.session (.addSentinel sentinel), rfl⟩ hc
  | clearSentinels => exact hcall _ _ ⟨.session .clearSentinels, rfl⟩ hc
  | receive result users others attempts =>
    refine (hw.tcpClientReceiveHandler_follows (fun input hinput reply => ?_) (hhandler h.2 attempts)
      result).keeping hc
    refine connectionReceiveHandler_follows (fun _ _ hc => hc) (fun _ hc => hc) (fun p hp => ?_) reply
    obtain ⟨user, hmem, rfl⟩ := List.mem_map.mp (hinput p hp)
    exact huser (h.1 user hmem)
  | drop before others attempts =>
    have hdrop : Follows (Keeping fun c : Client κ => I c.toSession)
        (Client.drop (told notify) (after before.run) (after others.run) attempts) :=
      .bind (.modify fun c hc => hI _ _ rfl hc) fun _ => .bind (huser h.1) fun _ =>
        hw.tcpClientDisconnectionHandler_follows (hhandler h.2 attempts)
    exact hdrop.keeping hc
  | failureStep i user =>
    have hturn : Follows (Keeping fun c : Client κ => I c.toSession)
        (Client.failureStep i user.run) := by
      refine .bind .get fun _ => ?_
      split
      · refine .bind (.modify fun _ hc => hc) fun _ => ?_
        refine .bind (.bind (.modify fun _ hc => hc) fun _ => react_follows _ (huser h)) fun _ => ?_
        exact .modify fun _ hc => hc
      · exact .pure _
    exact hturn.keeping hc

variable (hn : ∀ n, Follows NonDialling (notify n).run)
include hn

theorem nonDialling_calls : ∀ n, Follows Call (told notify n) :=
  fun n => (hn n).mono fun _ _ h => .single h.call

theorem connectionDisconnectionHandler_cancelled {others : EStateM Fault (Client κ) Unit}
    (hothers : Follows NonDialling others) (attempts : List Attempt) :
    Follows (Keeping fun c : Client κ => c.toSession.Cancelled dialled)
      (connectionDisconnectionHandler (told notify) (after others) attempts) :=
  Owner.connectionDisconnectionHandler_cancelled (o := owner (told notify))
    (fun n => nonDialling_keeping (hn n))
    (.modify fun c hc => (c.clearCallbacks_session ▸ hc : c.clearCallbacks.toSession.Cancelled dialled))
    (fun _ => (nonDialling_keeping hothers).keeping) attempts

theorem locked_cancel {others : EStateM Fault (Client κ) Unit} (hothers : Follows NonDialling others)
    (hc : c.cancel = true) : ((owner (told notify)).locked (after others) c).cancel = true := by
  have hlocked : (owner (told notify)).Cancelled c.client.client.dialled
      ((owner (told notify)).locked (after others) c) :=
    Owner.locked_cancelled (fun n => nonDialling_keeping (hn n))
      (fun _ => (nonDialling_keeping hothers).keeping) ⟨hc, rfl⟩
  exact hlocked.cancel

/-- An event dials nothing but what a call of `connect` asks for, at most once. -/
theorem Event.cancelled {e : Event κ} (h : e.Uses NonDialling c) (hc : c.toSession.Cancelled dialled) :
    ∃ new : List Endpoint, new.Sublist e.dials ∧
      (e.run notify c).toSession.Cancelled (dialled ++ new) := by
  have hother (hconnect : ∀ p accepted, e ≠ .connect p accepted)
      (hbyName : ∀ name p lookup accepted, e ≠ .connectByName name p lookup accepted) :
      ∃ new : List Endpoint, new.Sublist e.dials ∧
        (e.run notify c).toSession.Cancelled (dialled ++ new) := by
    refine ⟨[], List.nil_sublist _, ?_⟩
    rw [List.append_nil]
    exact Event.keeping (I := Session.Cancelled dialled)
      (fun _ _ hr ht => ⟨ht.cancel, hr.trans ht.dialled⟩) (fun _ _ hcall => hcall.keeping)
      (connectionDisconnectionHandler_cancelled hn) h hconnect hbyName hc
  cases e with
  | connect p accepted =>
    exact Owner.connect_cancelled (o := owner (told notify)) (fun _ n => nonDialling_keeping (hn n)) p
      accepted hc
  | connectByName name p lookup accepted =>
    exact Owner.connectByName_cancelled (o := owner (told notify)) (fun _ n => nonDialling_keeping (hn n))
      _ name p lookup accepted hc
  | _ => exact hother nofun nofun

/-- A cancelled reconnection is over at once, unless the connect callback throws. -/
theorem Event.idle (hreturns : ∀ n c, Returns (notify n).run c) {e : Event κ} (h : e.Uses NonDialling c)
    (hcancel : c.cancel = true) (hidle : c.reconnecting = false) :
    (e.run notify c).reconnecting = false := by
  have hcalls : (owner (told notify)).Calls (SameFlag : Client κ → Client κ → Prop) :=
    (keepsFlag (nonDialling_calls hn)).toCalls
  have hkeeps {p : EStateM Fault (Client κ) Unit} (hp : Follows SameFlag p) :
      (after p c).reconnecting = false :=
    hp.keeps (I := fun c : Client κ => c.reconnecting = false)
      (fun _ _ hstep hc => hstep.trans hc) hidle
  have hother (hconnect : ∀ p accepted, e ≠ .connect p accepted)
      (hbyName : ∀ name p lookup accepted, e ≠ .connectByName name p lookup accepted) :
      (e.run notify c).reconnecting = false := by
    refine (Event.keeping (I := fun t => t.cancel = true ∧ t.reconnecting = false)
      (fun _ _ _ ht => ht) (fun _ _ hp hc => ⟨hp.call.cancel hc.1, hp.call.sameFlag.trans hc.2⟩)
      (fun hothers attempts => .of_keeping fun c hc => ⟨?_, ?_⟩) h hconnect hbyName
      ⟨hcancel, hidle⟩).2
    · exact ((connectionDisconnectionHandler_cancelled hn hothers attempts).keeping ⟨hc.1, rfl⟩).cancel
    · exact Owner.connectionDisconnectionHandler_idle (keepsFlag (nonDialling_calls hn)) hreturns
        (fun c => hothers.keeps (fun _ _ hstep hc => hstep.call.sameFlag.trans hc)
          (rfl : SameFlag c c)) attempts (locked_cancel hn hothers hc.1) hc.2
  cases e with
  | connect p accepted => exact hkeeps (hcalls.connect_follows p accepted)
  | connectByName name p lookup accepted =>
    exact hkeeps (hcalls.connectByName_follows _ name p lookup accepted)
  | _ => exact hother nofun nofun

/-- How attempts to reconnect would end makes no difference. -/
theorem Event.unattended_run {e : Event κ} (h : e.Uses NonDialling c) (hcancel : c.cancel = true) :
    e.unattended.run notify c = e.run notify c := by
  have hhandler {others : Program κ} (hothers : Follows NonDialling others.run) (attempts : List Attempt)
      (c : Client κ) (hc : c.cancel = true) :
      connectionDisconnectionHandler (told notify) (after others.run) [] c =
        connectionDisconnectionHandler (told notify) (after others.run) attempts c :=
    (Owner.connectionDisconnectionHandler_unattended attempts (locked_cancel hn hothers hc)).symm
  cases e with
  | receive result users others attempts =>
    exact after_congr (tcpClientReceiveHandler_congr
      (fun builder => hhandler h.2 attempts (connection.set { c.client with builder := builder } c)
        hcancel) _ _ _)
  | drop before others attempts =>
    have hlost : (connection.update RedisConnection.lose c).toSession.Cancelled
        c.client.client.dialled := ⟨hcancel, rfl⟩
    have hbefore := ((nonDialling_keeping h.1).keeping hlost).cancel
    exact after_congr (tcpClientDisconnectionHandler_congr (hhandler h.2 attempts
      (connection.update RedisConnection.clear
        (after before.run (connection.update RedisConnection.lose c)))
      hbefore))
  | _ => rfl

theorem rests : Rests (users NonDialling notify) session Event.dials Event.unattended
    (∀ n c, Returns (notify n).run c) where
  cancelled he hc := Event.cancelled hn he hc
  unattended he hc := Event.unattended_run hn he hc
  idle hreturns _ _ he hc hidle := Event.idle hn hreturns he hc hidle

/-- Once the reconnection of a client is cancelled, it stays so. In every run from then on, what
is dialled are endpoints of the user's calls of `connect`, at most one for each and in their
order; how attempts to reconnect would end makes no difference to the state; and where the
connect callback does not throw, the client is never left with `m_reconnecting` set. -/
theorem client_cancelled {events : List (Event κ)} (hc : c.cancel = true)
    (h : (users NonDialling notify).Possible c events) :
    let c' := (users NonDialling notify).run c events
    c'.cancel = true ∧
      (∃ new : List Endpoint, new.Sublist (events.flatMap Event.dials) ∧
        c'.client.client.dialled = c.client.client.dialled ++ new) ∧
      (users NonDialling notify).run c (events.map Event.unattended) = c' ∧
      ((∀ n c, Returns (notify n).run c) → c.reconnecting = false → c'.reconnecting = false) :=
  (rests hn).run hc h

end Events

/-- A client whose reconnection was cancelled connects, is lost with a command pending although
the server would accept another connection, and is connected again by its user. -/
def lostForGood : List (Event Nat) :=
  [.connect { host := ascii "localhost", port := 6379, maxReconnects := -1 } true,
    .send [ascii "PING"] (some 0), .drop .idle .idle [{ accepted := true }], .failureStep 0 .idle,
    .connect { host := ascii "localhost", port := 6380 } true]

theorem client_cancelled_lostForGood :
    let c : Client Nat := { cancel := true }
    let c' := (users NonDialling fun _ => .idle).run c lostForGood
    c'.cancel = true ∧
      (∃ new : List Endpoint, new.Sublist (lostForGood.flatMap Event.dials) ∧
        c'.client.client.dialled = c.client.client.dialled ++ new) ∧
      (users NonDialling fun _ => .idle).run c (lostForGood.map Event.unattended) = c' ∧
      ((∀ (_ : Notification) (c : Client Nat), Returns (Program.idle : Program Nat).run c) →
        c.reconnecting = false → c'.reconnecting = false) :=
  client_cancelled (fun _ => .pure _) rfl (.intro trivial <| .intro ⟨.send _ _, rfl⟩ <|
    .intro ⟨.pure _, .pure _⟩ <| .intro (.pure _) <| .intro trivial trivial)

end Client

/-! ## The subscriber -/

namespace Subscriber

variable {κ : Type} {s s' : Subscriber κ} {dialled : List Endpoint}

theorem Call.cancel (h : Call s s') (hs : s.cancel = true) : s'.cancel = true := by
  cases h with
  | session h => exact h.cancel hs
  | unsubscribe channel =>
    unfold Subscriber.unsubscribe
    split <;> exact hs
  | punsubscribe pattern =>
    unfold Subscriber.punsubscribe
    split <;> exact hs
  | commit =>
    unfold Subscriber.commit
    rw [Lens.after_zoom]
    exact hs
  | _ => exact hs

/-- A public function other than `connect`. -/
structure NonDialling (s s' : Subscriber κ) : Prop where
  call : Call s s'
  dialled : s'.client.client.dialled = s.client.client.dialled

theorem commit_dialled (s : Subscriber κ) :
    (after commit s).client.client.dialled = s.client.client.dialled := by
  unfold commit
  rw [Lens.after_zoom]
  exact s.client.commit_dialled

theorem NonDialling.keeping (h : NonDialling s s') :
    Keeping (fun s : Subscriber κ => s.toSession.Cancelled dialled) s s' :=
  fun hs => ⟨h.call.cancel hs.cancel, h.dialled.trans hs.dialled⟩

theorem nonDialling_keeping {p : EStateM Fault (Subscriber κ) Unit} (h : Follows NonDialling p) :
    Follows (Keeping fun s : Subscriber κ => s.toSession.Cancelled dialled) p :=
  h.mono fun _ _ hstep => .single hstep.keeping

/-- The endpoints that an event asks to dial. -/
def Event.dials : Event κ → List Endpoint
  | .connect p _ => [p.endpoint]
  | .connectByName _ p lookup _ => p.named lookup
  | _ => []

/-- The event without any attempts to reconnect. -/
def Event.unattended : Event κ → Event κ
  | .receive result users others _ => .receive result users others []
  | .drop before others _ => .drop before others []
  | e => e

section Events

variable {notify : Notification → EStateM Fault (Subscriber κ) Unit}

/-- The handlers keep what the user's code keeps, once the reconnection is cancelled. -/
theorem Event.keeping {I : Session → Prop}
    (hI : ∀ (t : Session) (r : RedisConnection), r.client.dialled = t.client.client.dialled →
      I t → I { t with client := r })
    (hcall : ∀ s s' : Subscriber κ, NonDialling s s' → I s.toSession → I s'.toSession)
    (hhandler : ∀ {others : EStateM Fault (Subscriber κ) Unit}, Follows NonDialling others →
      ∀ attempts, Follows (Keeping fun s : Subscriber κ => I s.toSession)
        (connectionDisconnectionHandler notify (after others) attempts))
    {e : Event κ} (h : e.Uses NonDialling) (hconnect : ∀ p accepted, e ≠ .connect p accepted)
    (hbyName : ∀ name p lookup accepted, e ≠ .connectByName name p lookup accepted)
    (hs : I s.toSession) : I (e.run notify s).toSession := by
  have hw : HandlersWithin (connection : Lens (Subscriber κ) RedisConnection)
      (Keeping fun s : Subscriber κ => I s.toSession) := Owner.handlersWithin_keeping hI session
  have huser {p : EStateM Fault (Subscriber κ) Unit} (hp : Follows NonDialling p) :
      Follows (Keeping fun s : Subscriber κ => I s.toSession) p :=
    hp.mono fun s s' hstep => .single (hcall s s' hstep)
  cases e with
  | user code => exact (huser h).keeping hs
  | connect p accepted => exact absurd rfl (hconnect p accepted)
  | connectByName name p lookup accepted => exact absurd rfl (hbyName name p lookup accepted)
  | receive result users others attempts =>
    refine (hw.tcpClientReceiveHandler_follows (fun input hinput reply => ?_) (hhandler h.2 attempts)
      result).keeping hs
    exact RepliesWithin.connectionReceiveHandler_follows ⟨fun _ _ hs => hs, fun _ hs => hs⟩
      (fun p hp => huser (h.1 p (hinput p hp))) reply
  | drop before others attempts =>
    have hdrop : Follows (Keeping fun s : Subscriber κ => I s.toSession)
        (Subscriber.drop notify (after before) (after others) attempts) :=
      .bind (.modify fun s hs => hI _ _ rfl hs) fun _ => .bind (huser h.1) fun _ =>
        hw.tcpClientDisconnectionHandler_follows (hhandler h.2 attempts)
    exact hdrop.keeping hs

variable (hn : ∀ n, Follows NonDialling (notify n))
include hn

theorem nonDialling_calls : ∀ n, Follows Call (notify n) :=
  fun n => (hn n).mono fun _ _ h => .single h.call

theorem connectionDisconnectionHandler_cancelled {others : EStateM Fault (Subscriber κ) Unit}
    (hothers : Follows NonDialling others) (attempts : List Attempt) :
    Follows (Keeping fun s : Subscriber κ => s.toSession.Cancelled dialled)
      (connectionDisconnectionHandler notify (after others) attempts) :=
  Owner.connectionDisconnectionHandler_cancelled (o := owner notify)
    (fun n => nonDialling_keeping (hn n)) (.modify fun _ hs => ⟨hs.cancel, hs.dialled⟩)
    (fun _ => (nonDialling_keeping hothers).keeping) attempts

theorem locked_cancel {others : EStateM Fault (Subscriber κ) Unit} (hothers : Follows NonDialling others)
    (hs : s.cancel = true) : ((owner notify).locked (after others) s).cancel = true := by
  have hlocked : (owner notify).Cancelled s.client.client.dialled
      ((owner notify).locked (after others) s) :=
    Owner.locked_cancelled (fun n => nonDialling_keeping (hn n))
      (fun _ => (nonDialling_keeping hothers).keeping) ⟨hs, rfl⟩
  exact hlocked.cancel

/-- An event dials nothing but what a call of `connect` asks for, at most once. -/
theorem Event.cancelled {e : Event κ} (h : e.Uses NonDialling) (hs : s.toSession.Cancelled dialled) :
    ∃ new : List Endpoint, new.Sublist e.dials ∧
      (e.run notify s).toSession.Cancelled (dialled ++ new) := by
  have hother (hconnect : ∀ p accepted, e ≠ .connect p accepted)
      (hbyName : ∀ name p lookup accepted, e ≠ .connectByName name p lookup accepted) :
      ∃ new : List Endpoint, new.Sublist e.dials ∧
        (e.run notify s).toSession.Cancelled (dialled ++ new) := by
    refine ⟨[], List.nil_sublist _, ?_⟩
    rw [List.append_nil]
    exact Event.keeping (I := Session.Cancelled dialled)
      (fun _ _ hr ht => ⟨ht.cancel, hr.trans ht.dialled⟩) (fun _ _ hcall => hcall.keeping)
      (connectionDisconnectionHandler_cancelled hn) h hconnect hbyName hs
  cases e with
  | connect p accepted =>
    exact Owner.connect_cancelled (o := owner notify) (fun _ n => nonDialling_keeping (hn n)) p accepted hs
  | connectByName name p lookup accepted =>
    exact Owner.connectByName_cancelled (o := owner notify) (fun _ n => nonDialling_keeping (hn n)) _
      name p lookup accepted hs
  | _ => exact hother nofun nofun

/-- A cancelled reconnection is over at once, unless the connect callback throws. -/
theorem Event.idle (hreturns : ∀ n s, Returns (notify n) s) {e : Event κ} (h : e.Uses NonDialling)
    (hcancel : s.cancel = true) (hidle : s.reconnecting = false) :
    (e.run notify s).reconnecting = false := by
  have hflag : (owner notify).KeepsFlag := keepsFlag (nonDialling_calls hn)
  have hkeeps {p : EStateM Fault (Subscriber κ) Unit} (hp : Follows (owner notify).SameFlag p) :
      (after p s).reconnecting = false :=
    hp.keeps (I := fun s : Subscriber κ => s.reconnecting = false)
      (fun _ _ hstep hs => hstep.trans hs) hidle
  have hother (hconnect : ∀ p accepted, e ≠ .connect p accepted)
      (hbyName : ∀ name p lookup accepted, e ≠ .connectByName name p lookup accepted) :
      (e.run notify s).reconnecting = false := by
    refine (Event.keeping (I := fun t => t.cancel = true ∧ t.reconnecting = false)
      (fun _ _ _ ht => ht) (fun _ _ hp hs => ⟨hp.call.cancel hs.1, hp.call.reconnecting.trans hs.2⟩)
      (fun hothers attempts => .of_keeping fun s hs => ⟨?_, ?_⟩) h hconnect hbyName
      ⟨hcancel, hidle⟩).2
    · exact ((connectionDisconnectionHandler_cancelled hn hothers attempts).keeping ⟨hs.1, rfl⟩).cancel
    · exact Owner.connectionDisconnectionHandler_idle hflag hreturns
        (fun s => hothers.keeps (fun _ _ hstep hs => hstep.call.reconnecting.trans hs)
          (rfl : (owner notify).SameFlag s s)) attempts (locked_cancel hn hothers hs.1) hs.2
  cases e with
  | connect p accepted => exact hkeeps (hflag.toCalls.connect_follows p accepted)
  | connectByName name p lookup accepted =>
    exact hkeeps (hflag.toCalls.connectByName_follows _ name p lookup accepted)
  | _ => exact hother nofun nofun

/-- How attempts to reconnect would end makes no difference. -/
theorem Event.unattended_run {e : Event κ} (h : e.Uses NonDialling) (hcancel : s.cancel = true) :
    e.unattended.run notify s = e.run notify s := by
  have hhandler {others : EStateM Fault (Subscriber κ) Unit} (hothers : Follows NonDialling others)
      (attempts : List Attempt) (s : Subscriber κ) (hs : s.cancel = true) :
      connectionDisconnectionHandler notify (after others) [] s =
        connectionDisconnectionHandler notify (after others) attempts s :=
    (Owner.connectionDisconnectionHandler_unattended attempts (locked_cancel hn hothers hs)).symm
  cases e with
  | receive result users others attempts =>
    exact after_congr (tcpClientReceiveHandler_congr
      (fun builder => hhandler h.2 attempts (connection.set { s.client with builder := builder } s)
        hcancel) _ _ _)
  | drop before others attempts =>
    have hlost : (connection.update RedisConnection.lose s).toSession.Cancelled
        s.client.client.dialled := ⟨hcancel, rfl⟩
    have hbefore := ((nonDialling_keeping h.1).keeping hlost).cancel
    exact after_congr (tcpClientDisconnectionHandler_congr (hhandler h.2 attempts
      (connection.update RedisConnection.clear
        (after before (connection.update RedisConnection.lose s)))
      hbefore))
  | _ => rfl

theorem rests : Rests (users NonDialling notify) session Event.dials Event.unattended
    (∀ n s, Returns (notify n) s) where
  cancelled he hs := Event.cancelled hn he hs
  unattended he hs := Event.unattended_run hn he hs
  idle hreturns _ _ he hs hidle := Event.idle hn hreturns he hs hidle

/-- The same of a subscriber. -/
theorem subscriber_cancelled {events : List (Event κ)} (hs : s.cancel = true)
    (h : (users NonDialling notify).Possible s events) :
    let s' := (users NonDialling notify).run s events
    s'.cancel = true ∧
      (∃ new : List Endpoint, new.Sublist (events.flatMap Event.dials) ∧
        s'.client.client.dialled = s.client.client.dialled ++ new) ∧
      (users NonDialling notify).run s (events.map Event.unattended) = s' ∧
      ((∀ n s, Returns (notify n) s) → s.reconnecting = false → s'.reconnecting = false) :=
  (rests hn).run hs h

end Events

/-- A subscriber loses its connection with a channel subscribed to. -/
def unsubscribedForGood : List (Event Nat) :=
  [.connect { host := ascii "localhost", port := 6379, maxReconnects := 3 } true,
    .user (modify (·.subscribe (ascii "news") (some 0) none)), .user commit,
    .drop (pure ()) (pure ()) [{ accepted := true }]]

theorem subscriber_cancelled_unsubscribedForGood :
    let s : Subscriber Nat := { cancel := true }
    let s' := (users NonDialling fun _ => pure ()).run s unsubscribedForGood
    s'.cancel = true ∧
      (∃ new : List Endpoint, new.Sublist (unsubscribedForGood.flatMap Event.dials) ∧
        s'.client.client.dialled = s.client.client.dialled ++ new) ∧
      (users NonDialling fun _ => pure ()).run s (unsubscribedForGood.map Event.unattended) = s' ∧
      ((∀ (_ : Notification) (s : Subscriber Nat),
          Returns (pure () : EStateM Fault (Subscriber Nat) Unit) s) →
        s.reconnecting = false → s'.reconnecting = false) :=
  subscriber_cancelled (fun _ => .pure _) rfl (.intro trivial <|
    .intro (.modify fun _ => ⟨.subscribe _ _ _, rfl⟩) <|
    .intro (fun _ => .single ⟨.commit, commit_dialled _⟩) <| .intro ⟨.pure _, .pure _⟩ trivial)

end Subscriber

end CppRedis
