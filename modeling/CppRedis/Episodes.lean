import CppRedis.Lib.Retry
import CppRedis.Locking
import CppRedis.Targets

/-!
# Reconnection episodes

One disconnection handling of a client or a subscriber, from the notification that the connection
was dropped to the end of the handler, with what other threads call meanwhile: `cancel_reconnect`
takes no lock.

* `Owner.episode`: the handler. With no calls of other threads in its loop it is
  `connectionDisconnectionHandler` (`connectionDisconnectionHandler_eq`).
* `Session.Told`: what a call of the connect callback leaves of a session. `Owner.Aloof` is the
  condition on callbacks and other threads: only attempts change the connection.
* `Aloof.reconnect_told`: what an attempt that returns has told the connect callback, and whether
  it is connected.
-/

namespace CppRedis

open Text Procedure

/-! ## The handler -/

/-- What the outside does in a turn of the loop: the attempt, and what other threads call while the
handler sleeps and while it makes the attempt. -/
structure Turn (σ : Type) where
  attempt : Attempt
  asleep : σ → σ := id
  trying : σ → σ := id

namespace Owner

variable {σ : Type} (o : Owner σ)

/-- The loop of `connection_disconnection_handler`. -/
def retry : Retry Fault σ (Turn σ) where
  again s := (o.session.get s).shouldReconnect
  pause turn := do
    o.sleepBeforeNextReconnectAttempt
    modify turn.asleep
  attempt turn := do
    o.reconnect turn.attempt
    modify turn.trying

/-- `connection_disconnection_handler`, with what other threads call until it takes the lock and
during its loop. Returns whether it was left. -/
def episode (others : σ → σ) (turns : List (Turn σ)) : EStateM Fault σ Bool := do
  if (o.session.get (← get)).reconnecting then pure true
  else
    modify (o.session.update Session.beginReconnection)
    o.notifyState .dropped
    modify others
    if ← o.retry.loop turns then
      o.finishReconnection
      pure true
    else
      pure false

/-- The calls of `reconnect` that the handler makes. -/
def reconnectCalls (others : σ → σ) (turns : List (Turn σ)) (s : σ) :
    List (Retry.Made σ (Turn σ)) :=
  match o.notifyState .dropped (o.session.update Session.beginReconnection s) with
  | .ok _ s₁ => o.retry.made turns (others s₁)
  | .error _ _ => []

variable {o}

theorem pause_of_alone (a : Attempt) : o.retry.pause { attempt := a } =
    o.sleepBeforeNextReconnectAttempt := by
  funext s
  exact bind_pure_unit _ s

theorem attempt_of_alone (a : Attempt) : o.retry.attempt { attempt := a } = o.reconnect a := by
  funext s
  exact bind_pure_unit _ s

/-- Without calls of other threads the loop is that of the handler. -/
theorem reconnectLoop_eq (attempts : List Attempt) :
    o.reconnectLoop attempts = o.retry.loop (attempts.map fun a => { attempt := a }) := by
  induction attempts with
  | nil => rfl
  | cons a attempts ih =>
    rw [reconnectLoop, List.map_cons, Retry.loop, ih, pause_of_alone, attempt_of_alone]
    rfl

theorem connectionDisconnectionHandler_eq (others : σ → σ) (attempts : List Attempt) :
    o.connectionDisconnectionHandler others attempts =
      o.episode others (attempts.map fun a => { attempt := a }) := by
  rw [connectionDisconnectionHandler, episode, reconnectLoop_eq]

theorem reconnectCalls_ok {others : σ → σ} {turns : List (Turn σ)} {s s₁ : σ}
    (h : o.notifyState .dropped (o.session.update Session.beginReconnection s) = .ok ⟨⟩ s₁) :
    o.reconnectCalls others turns s = o.retry.made turns (others s₁) := by
  unfold reconnectCalls
  rw [h]

/-- What a handler has done that is left, or still in its loop. -/
theorem episode_ok {others : σ → σ} {turns : List (Turn σ)} {s s' : σ} {left : Bool}
    (hidle : (o.session.get s).reconnecting = false)
    (hs : o.episode others turns s = .ok left s') : ∃ s₁ s₂,
      o.notifyState .dropped (o.session.update Session.beginReconnection s) = .ok ⟨⟩ s₁ ∧
        o.retry.loop turns (others s₁) = .ok left s₂ ∧
          (left = true → o.finishReconnection s₂ = .ok ⟨⟩ s') := by
  unfold episode at hs
  rw [get_bind, hidle, if_neg Bool.false_ne_true, modify_bind] at hs
  obtain ⟨⟨⟩, s₁, hdropped, hs⟩ := bind_eq_ok hs
  rw [modify_bind] at hs
  obtain ⟨left', s₂, hloop, hs⟩ := bind_eq_ok hs
  cases left' with
  | false =>
    cases hs
    exact ⟨s₁, _, hdropped, hloop, fun h => nomatch h⟩
  | true =>
    rw [if_pos rfl] at hs
    obtain ⟨⟨⟩, s₃, hfinish, hs⟩ := bind_eq_ok hs
    cases hs
    exact ⟨s₁, s₂, hdropped, hloop, fun _ => hfinish⟩

end Owner

/-! ## Notifications -/

namespace Session

/-- What the connect callback was told so far. -/
def states (t : Session) : List ConnectState :=
  t.notified.map Notification.state

/-- The connect callback, where it is set, was told these states. Nothing else is written of what
the handler reads, but for the flag that cancels, which can only be set. -/
structure Told (states : List ConnectState) (t t' : Session) : Prop where
  connectCallback : t'.connectCallback = t.connectCallback
  masterName : t'.masterName = t.masterName
  maxReconnects : t'.maxReconnects = t.maxReconnects
  currentReconnectAttempts : t'.currentReconnectAttempts = t.currentReconnectAttempts
  reconnectIntervalMsecs : t'.reconnectIntervalMsecs = t.reconnectIntervalMsecs
  reconnecting : t'.reconnecting = t.reconnecting
  cancel : t.cancel = true → t'.cancel = true
  states : t'.states = t.states ++ if t.connectCallback then states else []

namespace Told

variable {states states' : List ConnectState} {t t₁ t₂ t₃ : Session}

theorem refl (t : Session) : Told [] t t :=
  ⟨rfl, rfl, rfl, rfl, rfl, rfl, id, by simp⟩

theorem trans (h : Told states t₁ t₂) (h' : Told states' t₂ t₃) : Told (states ++ states') t₁ t₃ := by
  refine ⟨h'.connectCallback.trans h.connectCallback, h'.masterName.trans h.masterName,
    h'.maxReconnects.trans h.maxReconnects,
    h'.currentReconnectAttempts.trans h.currentReconnectAttempts,
    h'.reconnectIntervalMsecs.trans h.reconnectIntervalMsecs,
    h'.reconnecting.trans h.reconnecting, fun hc => h'.cancel (h.cancel hc), ?_⟩
  rw [h'.states, h.states, h.connectCallback, List.append_assoc]
  cases t₁.connectCallback with
  | true => rfl
  | false => rfl

theorem trans_nil (h : Told states t₁ t₂) (h' : Told [] t₂ t₃) : Told states t₁ t₃ := by
  have htrans := h.trans h'
  rwa [List.append_nil] at htrans

theorem countAttempt (h : Told states t₁ t₂) : Told states t₁.countAttempt t₂.countAttempt := by
  refine ⟨h.connectCallback, h.masterName, h.maxReconnects, ?_, h.reconnectIntervalMsecs,
    h.reconnecting, h.cancel, h.states⟩
  exact congrArg (· + 1) h.currentReconnectAttempts

end Told

theorem Told.of_record {t : Session} (h : t.connectCallback = true) (n : Notification) :
    Told [n.state] t (t.record n) := by
  refine ⟨rfl, rfl, rfl, rfl, rfl, rfl, id, ?_⟩
  rw [h, if_pos rfl]
  exact List.map_append

/-- The same of a call that leaves the connection open or closed as it was. -/
structure Heard (states : List ConnectState) (t t' : Session) : Prop extends Told states t t' where
  connected : t'.isConnected = t.isConnected

namespace Heard

variable {states states' : List ConnectState} {t t₁ t₂ t₃ : Session}

theorem refl (t : Session) : Heard [] t t :=
  ⟨.refl t, rfl⟩

theorem trans (h : Heard states t₁ t₂) (h' : Heard states' t₂ t₃) :
    Heard (states ++ states') t₁ t₃ :=
  ⟨h.toTold.trans h'.toTold, h'.connected.trans h.connected⟩

theorem trans_nil (h : Heard states t₁ t₂) (h' : Heard [] t₂ t₃) : Heard states t₁ t₃ :=
  ⟨h.toTold.trans_nil h'.toTold, h'.connected.trans h.connected⟩

/-- A change of members that are not looked at here. -/
theorem of_address (t : Session) (host : Bytes) (port : Nat) :
    Heard [] t { t with redisServer := host, redisPort := port } :=
  ⟨⟨rfl, rfl, rfl, rfl, rfl, rfl, id, by simp [Session.states]⟩, rfl⟩

theorem of_refuse (t : Session) (endpoint : Endpoint) :
    Heard [] t { t with client := t.client.refuse endpoint } :=
  ⟨⟨rfl, rfl, rfl, rfl, rfl, rfl, id, by simp [Session.states]⟩, rfl⟩

theorem endReconnection (h : Heard states t₁ t₂) :
    Heard states t₁.endReconnection t₂.endReconnection :=
  ⟨⟨h.connectCallback, h.masterName, h.maxReconnects, h.currentReconnectAttempts,
    h.reconnectIntervalMsecs, rfl, h.cancel, h.states⟩, h.connected⟩

end Heard

theorem Told.of_accept (t : Session) (endpoint : Endpoint) :
    Told [] t { t with client := t.client.accept endpoint true true } :=
  ⟨rfl, rfl, rfl, rfl, rfl, rfl, id, by simp [Session.states]⟩

end Session

open Session

/-! ## What the parts of the handler do -/

namespace Owner

variable {σ : Type} {o : Owner σ}

/-- A call that writes neither what the handler reads nor the connection. -/
def LeavesAlone (o : Owner σ) (f : σ → σ) : Prop :=
  ∀ s, Heard [] (o.session.get s) (o.session.get (f s))

/-- Neither the connect callback nor what `reconnect` and the handler do at their ends writes what
the handler reads. What `reconnect` does at its end returns on an open connection only. -/
structure Aloof (o : Owner σ) : Prop where
  notify : ∀ n, o.LeavesAlone (after (o.notify n))
  resume : ∀ s, Told [] (o.session.get s) (o.session.get (after o.resume s))
  resumed : ∀ {s s'}, o.resume s = .ok ⟨⟩ s' →
    (o.session.get s).isConnected = true ∧ (o.session.get s').isConnected = true
  giveUp : o.LeavesAlone (after o.giveUp)

/-- The connect callback returns whatever it is told. -/
def Answers (o : Owner σ) : Prop :=
  ∀ n s, Returns (o.notify n) s

theorem Answers.callConnectCallback (h : o.Answers) (host : Bytes) (port : Nat)
    (state : ConnectState) (s : σ) : Returns (o.callConnectCallback host port state) s := by
  unfold Owner.callConnectCallback
  rw [returns_get]
  split
  · exact returns_modify.mpr (h _ _)
  · exact returns_pure _ _

namespace Aloof

variable (h : Aloof o)
include h

theorem callConnectCallback_heard (host : Bytes) (port : Nat) (state : ConnectState) (s : σ) :
    Heard [state] (o.session.get s)
      (o.session.get (after (o.callConnectCallback host port state) s)) := by
  unfold Owner.callConnectCallback
  rw [after_get_bind]
  cases hset : (o.session.get s).connectCallback with
  | true =>
    rw [if_pos rfl, after_modify_bind]
    have hnotify := h.notify ⟨host, port, state⟩ (o.session.update (·.record ⟨host, port, state⟩) s)
    rw [get_update] at hnotify
    have hrecord : Heard [state] (o.session.get s) ((o.session.get s).record ⟨host, port, state⟩) :=
      ⟨Told.of_record hset ⟨host, port, state⟩, rfl⟩
    exact hrecord.trans_nil hnotify
  | false =>
    rw [if_neg Bool.false_ne_true]
    refine ⟨⟨rfl, rfl, rfl, rfl, rfl, rfl, id, ?_⟩, rfl⟩
    rw [hset, if_neg Bool.false_ne_true, List.append_nil]
    rfl

theorem notifyState_heard (state : ConnectState) (s : σ) :
    Heard [state] (o.session.get s) (o.session.get (after (o.notifyState state) s)) :=
  h.callConnectCallback_heard _ _ state s

theorem notifyState_ok {state : ConnectState} {s s' : σ} (hs : o.notifyState state s = .ok ⟨⟩ s') :
    Heard [state] (o.session.get s) (o.session.get s') := by
  have hheard := h.notifyState_heard state s
  rwa [after_ok hs] at hheard

/-- What is told before an attempt. -/
theorem sleep_ok {s s' : σ} (hs : o.sleepBeforeNextReconnectAttempt s = .ok ⟨⟩ s') :
    Heard (if 0 < (o.session.get s).reconnectIntervalMsecs then [.sleeping] else [])
      (o.session.get s) (o.session.get s') := by
  unfold sleepBeforeNextReconnectAttempt at hs
  rw [get_bind] at hs
  split at hs
  · next hnone =>
    cases hs
    rw [if_neg (Nat.not_lt.mpr hnone)]
    exact .refl _
  · next hsome =>
    rw [if_pos (Nat.not_le.mp hsome)]
    exact h.notifyState_ok hs

omit h in
theorem findMaster_ok {lookup : Lookup} {found : Bool} {s s' : σ}
    (hs : o.findMaster lookup s = .ok found s') :
    found = (o.session.get s).findsMaster lookup ∧
      Heard [] (o.session.get s) (o.session.get s') := by
  constructor
  · have hvalue := value_findMaster ((o.findMaster_returns lookup s).mp ⟨_, _, hs⟩)
    rw [value_ok hs] at hvalue
    exact Option.some.inj hvalue
  · obtain ⟨host, port, hafter⟩ := o.after_findMaster lookup s
    rw [after_ok hs] at hafter
    rw [hafter, o.session.get_set]
    exact .of_address _ host port

/-- `connect`, called with what is saved where there is no connection: it fails, or it opens one.
With a callback that returns it does what the server does. -/
theorem connect_told {accepted : Bool} {s s' : σ} (hclosed : (o.session.get s).isConnected = false)
    (hs : after (o.connect (o.session.get s).reconnectParams accepted) s = s') :
    (Heard [.start] (o.session.get s) (o.session.get s') ∧ (o.Answers → accepted = false)) ∨
      accepted = true ∧ (o.session.get s').isConnected = true ∧
        Told [.start, .ok] (o.session.get s) (o.session.get s') := by
  have hsaved : o.session.update (·.saveConnect (o.session.get s).reconnectParams) s = s :=
    o.session.set_get s
  generalize (o.session.get s).reconnectParams = p at hsaved hs
  unfold Owner.connect at hs
  rw [after_modify_bind, hsaved] at hs
  have hstart := h.callConnectCallback_heard p.host p.port .start s
  cases hcall : o.callConnectCallback p.host p.port .start s with
  | error e s₁ =>
    rw [after_bind_error hcall] at hs
    rw [after_error hcall, hs] at hstart
    exact .inl ⟨hstart, fun hanswers => absurd (hanswers.callConnectCallback p.host p.port .start s)
      (not_returns_of_error hcall)⟩
  | ok u s₁ =>
    rw [after_bind_ok hcall] at hs
    rw [after_ok hcall] at hstart
    cases accepted with
    | false =>
      have hrefuse := o.session.zoom_error (s := s₁) (Session.connection.zoom_error
        (RedisConnection.connect_refused p.host p.port true true p.timeoutMsecs (.inr rfl)))
      rw [after_bind_error hrefuse] at hs
      rw [← hs, o.session.get_set]
      exact .inl ⟨hstart.trans_nil (.of_refuse _ _), fun _ => rfl⟩
    | true =>
      have hclosed₁ := hstart.connected.trans hclosed
      have haccept := o.session.zoom_ok (s := s₁) (Session.connection.zoom_ok
        (RedisConnection.connect_accepted p.host p.port true true p.timeoutMsecs hclosed₁))
      rw [after_bind_ok haccept] at hs
      have hok := h.notifyState_heard .ok (o.session.set (Session.connection.set
        ((o.session.get s₁).client.accept ⟨p.host, p.port % 2 ^ 32, p.timeoutMsecs⟩ true true)
        (o.session.get s₁)) s₁)
      rw [o.session.get_set] at hok
      rw [← hs]
      refine .inr ⟨rfl, hok.connected, ?_⟩
      exact (hstart.toTold.trans_nil (.of_accept _ _)).trans hok.toTold

/-- What an attempt that returns has told the connect callback, counted from the moment when the
attempt is: what the lookup found and the server did, and after a connection a second `ok`. -/
theorem reconnect_told {a : Attempt} {s s' : σ} (hclosed : (o.session.get s).isConnected = false)
    (hs : o.reconnect a s = .ok ⟨⟩ s') :
    let t := (o.session.get s).countAttempt
    let t' := o.session.get s'
    (t.findsMaster a.lookup = false ∧ Heard [.lookupFailed] t t') ∨
      (t.findsMaster a.lookup = true ∧ Heard [.start, .failed] t t' ∧
        (o.Answers → a.accepted = false)) ∨
      t.findsMaster a.lookup = true ∧ a.accepted = true ∧ t'.isConnected = true ∧
        Told [.start, .ok, .ok] t t' := by
  have hcount : o.session.get (o.session.update Session.countAttempt s) =
      (o.session.get s).countAttempt := get_update _ _
  unfold Owner.reconnect at hs
  rw [modify_bind] at hs
  obtain ⟨found, s₁, hfind, hs⟩ := bind_eq_ok hs
  obtain ⟨hfound, hheard⟩ := findMaster_ok hfind
  rw [hcount] at hfound hheard
  intro t t'
  cases found with
  | false => exact .inl ⟨hfound.symm, hheard.trans (h.notifyState_ok hs)⟩
  | true =>
    rw [if_pos rfl] at hs
    obtain ⟨⟨⟩, s₂, htry, hs⟩ := bind_eq_ok hs
    rw [get_bind] at hs
    have hclosed₁ : (o.session.get s₁).isConnected = false := hheard.connected.trans hclosed
    rcases h.connect_told hclosed₁ (tryConnect_ok htry) with
      ⟨hfailed, hrefused⟩ | ⟨haccepted, hopen, htold⟩
    · rw [hfailed.connected, hclosed₁, if_neg Bool.false_ne_true] at hs
      exact .inr (.inl ⟨hfound.symm, hheard.trans (hfailed.trans (h.notifyState_ok hs)), hrefused⟩)
    · rw [hopen, if_pos rfl] at hs
      obtain ⟨⟨⟩, s₃, hok, hs⟩ := bind_eq_ok hs
      have hsecond := (hheard.toTold.trans htold).trans (h.notifyState_ok hok).toTold
      cases hlost : a.lost with
      | true =>
        -- what `reconnect` does at its end would have thrown
        rw [hlost, if_pos rfl, modify_bind] at hs
        have hstill := (h.resumed hs).1
        rw [get_update] at hstill
        exact absurd hstill Bool.false_ne_true
      | false =>
        rw [hlost, if_neg Bool.false_ne_true] at hs
        have hresume := h.resume s₃
        rw [after_ok hs] at hresume
        exact .inr (.inr ⟨hfound.symm, haccepted, (h.resumed hs).2, hsecond.trans_nil hresume⟩)

/-- The end of the handler tells the callback that it has stopped, if there is no connection. -/
theorem finishReconnection_heard {s s' : σ} (hs : o.finishReconnection s = .ok ⟨⟩ s') :
    Heard (if (o.session.get s).isConnected then [] else [.stopped])
      (o.session.get s).endReconnection (o.session.get s') := by
  unfold finishReconnection at hs
  rw [get_bind] at hs
  cases hconnected : (o.session.get s).isConnected with
  | true =>
    rw [hconnected, Bool.not_true, if_neg Bool.false_ne_true] at hs
    cases hs
    rw [if_pos rfl, get_update]
    exact .refl _
  | false =>
    rw [hconnected, Bool.not_false, if_pos rfl] at hs
    obtain ⟨⟨⟩, s₁, hgiveUp, hs⟩ := bind_eq_ok hs
    obtain ⟨⟨⟩, s₂, hstopped, hs⟩ := bind_eq_ok hs
    cases hs
    have hgaveUp := h.giveUp s
    rw [after_ok hgiveUp] at hgaveUp
    rw [if_neg Bool.false_ne_true, get_update]
    exact (hgaveUp.trans (h.notifyState_ok hstopped)).endReconnection

end Aloof

/-- What other threads call during a turn writes neither what the handler reads nor the
connection. -/
def TurnAlone (o : Owner σ) (turn : Turn σ) : Prop :=
  o.LeavesAlone turn.asleep ∧ o.LeavesAlone turn.trying

/-- A turn that returns: the pause, and the call of `reconnect` between two moments in which other
threads are heard. -/
theorem turn_parts {turn : Turn σ} {s s₁ s₂ : σ} (ht : o.retry.Turn turn s s₁ s₂) :
    (o.session.get s).isConnected = false ∧
      (∃ s', o.sleepBeforeNextReconnectAttempt s = .ok ⟨⟩ s' ∧ s₁ = turn.asleep s') ∧
        ∃ s', o.reconnect turn.attempt s₁ = .ok ⟨⟩ s' ∧ s₂ = turn.trying s' := by
  refine ⟨?_, ?_, ?_⟩
  · exact (shouldReconnect_iff.mp ht.again).1
  · obtain ⟨⟨⟩, s', hsleep, hasleep⟩ := bind_eq_ok ht.pause
    cases hasleep
    exact ⟨s', hsleep, rfl⟩
  · obtain ⟨⟨⟩, s', hreconnect, htrying⟩ := bind_eq_ok ht.attempt
    cases htrying
    exact ⟨s', hreconnect, rfl⟩

/-- A turn counts its attempt, and keeps what the handler reads. -/
theorem Aloof.turn_kept (h : Aloof o) {turn : Turn σ} {s s₁ s₂ : σ} (hturn : o.TurnAlone turn)
    (ht : o.retry.Turn turn s s₁ s₂) :
    ∃ states, Told states (o.session.get s).countAttempt (o.session.get s₂) := by
  obtain ⟨hclosed, ⟨s', hsleep, rfl⟩, s'', hreconnect, rfl⟩ := turn_parts ht
  have hbefore := (h.sleep_ok hsleep).trans_nil (hturn.1 s')
  have hslept := hbefore.toTold.countAttempt
  have hafter := (hturn.2 s'').toTold
  rcases h.reconnect_told (hbefore.connected.trans hclosed) hreconnect with
    ⟨-, hheard⟩ | ⟨-, hheard, -⟩ | ⟨-, -, -, htold⟩
  · exact ⟨_, hslept.trans (hheard.toTold.trans_nil hafter)⟩
  · exact ⟨_, hslept.trans (hheard.toTold.trans_nil hafter)⟩
  · exact ⟨_, hslept.trans (htold.trans_nil hafter)⟩

end Owner

/-! ## Clients and subscribers -/

theorem Session.Sent.told {t t' : Session} (h : Sent t t') : Told [] t t' := by
  rw [h.1]
  exact ⟨rfl, rfl, rfl, rfl, rfl, rfl, id, by simp [Session.states]⟩

section

variable {κ : Type}

theorem Client.aloof {notify : Notification → EStateM Fault (Client κ) Unit}
    (hn : ∀ n, (owner notify).LeavesAlone (after (notify n))) : (owner notify).Aloof where
  notify := hn
  resume c := (resume_sent c).told
  resumed h := resume_connected h
  giveUp c := by
    show Heard [] c.toSession c.clearCallbacks.toSession
    rw [clearCallbacks_session]
    exact .refl _

theorem Subscriber.aloof {notify : Notification → EStateM Fault (Subscriber κ) Unit}
    (hn : ∀ n, (owner notify).LeavesAlone (after (notify n))) : (owner notify).Aloof where
  notify := hn
  resume s := (resume_sent s).told
  resumed {s s'} h := by
    obtain ⟨hopen, hclient, -⟩ := resume_ok h
    refine ⟨hopen, ?_⟩
    show s'.client.isConnected = true
    rw [hclient]
    exact hopen
  giveUp _ := .refl _

theorem Side.aloof {side : Side} {notify : Notification → EStateM Fault (side.State κ) Unit}
    (hn : ∀ n, (side.owner notify).LeavesAlone (after (notify n))) :
    (side.owner notify).Aloof := by
  cases side with
  | client => exact Client.aloof hn
  | subscriber => exact Subscriber.aloof hn

end

end CppRedis
