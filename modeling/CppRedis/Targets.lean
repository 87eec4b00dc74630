import CppRedis.Mirror
import CppRedis.Resend

/-!
# Where a reconnection goes

A reconnection reads the members that `connect` saves. They are those of the last call that
succeeded only while nothing else has written them: a call that fails writes them too, the
name of the master stays when the next call is by host and port, and the timeout is never
saved.

* `Target`: what a call of `connect` asks for. `Aimed` says that the members of a session
  are those of a target, `Target.endpoint` where an attempt that goes there dials.
* `reconnect_tried`, `reconnectLoop_tried`: a reconnection that starts aimed stays aimed,
  and each of its attempts dials the endpoint of the target.
* `reconnection_aimed`: so it is in every run whose calls of `connect` are `Faithful`, for
  a client and for a subscriber.
-/

namespace CppRedis

open Text Procedure

/-! ## Targets -/

/-- Where to connect: to an address, or to the master of that name. -/
inductive Place
  | address (host : Bytes) (port : Nat)
  | master (name : Bytes)
deriving DecidableEq, Repr

/-- What a call of `connect` asks for. -/
structure Target where
  place : Place
  timeoutMsecs : Nat
  maxReconnects : Int
  reconnectIntervalMsecs : Nat
deriving DecidableEq, Repr

namespace Session

/-- The address that a lookup gives. -/
def resolved (t : Session) : Lookup → Option (Bytes × Nat)
  | .found host port =>
    if t.sentinel.sentinels.isEmpty || port == 0 then none else some (host, port)
  | _ => none

/-- Where an attempt that goes to the target dials, if its lookup gives an address. -/
def endpoint (t : Session) (target : Target) (lookup : Lookup) : Option Endpoint :=
  match target.place with
  | .address host port => some ⟨host, port % 2 ^ 32, target.timeoutMsecs⟩
  | .master _ =>
    (t.resolved lookup).map fun address => ⟨address.1, address.2 % 2 ^ 32, target.timeoutMsecs⟩

/-- What a reconnection reads is what the call asked for. -/
structure Aimed (t : Session) (target : Target) : Prop where
  place : match target.place with
    | .address host port => t.masterName = [] ∧ t.redisServer = host ∧ t.redisPort = port
    | .master name => name ≠ [] ∧ t.masterName = name
  timeoutMsecs : t.connectTimeoutMsecs = target.timeoutMsecs
  maxReconnects : t.maxReconnects = target.maxReconnects
  reconnectIntervalMsecs : t.reconnectIntervalMsecs = target.reconnectIntervalMsecs

/-- The lookup finds an address, or it resets the one that was saved. -/
theorem getMasterAddrByName_cases (lookup : Lookup) (t : Session) :
    (∃ host port, t.resolved lookup = some (host, port) ∧ getMasterAddrByName lookup t =
        .ok true { t with redisServer := host, redisPort := port }) ∨
      t.resolved lookup = none ∧ ∃ host port,
        (getMasterAddrByName lookup t = .ok false { t with redisServer := host, redisPort := port } ∨
          ∃ e, getMasterAddrByName lookup t =
            .error e { t with redisServer := host, redisPort := port }) := by
  unfold getMasterAddrByName resolved
  dsimp only
  cases hs : t.sentinel.sentinels.isEmpty with
  | true =>
    refine .inr ⟨?_, _, _, .inr ⟨_, rfl⟩⟩
    cases lookup <;> rfl
  | false =>
    cases lookup with
    | found host port =>
      cases hport : port == 0 with
      | true => exact .inr ⟨by simp [hport], host, port, .inl (by simp [bne, hport])⟩
      | false => exact .inl ⟨host, port, by simp [hport], by simp [bne, hport]⟩
    | notFound => exact .inr ⟨rfl, _, _, .inl rfl⟩
    | throws what => exact .inr ⟨rfl, _, _, .inr ⟨_, rfl⟩⟩

/-! ## What keeps the parameters -/

/-- What a reconnection reads is as it was, but for `dials` more connection attempts. -/
structure Kept (dials : List Endpoint) (t t' : Session) : Prop where
  redisServer : t'.redisServer = t.redisServer
  redisPort : t'.redisPort = t.redisPort
  masterName : t'.masterName = t.masterName
  sentinel : t'.sentinel = t.sentinel
  connectTimeoutMsecs : t'.connectTimeoutMsecs = t.connectTimeoutMsecs
  maxReconnects : t'.maxReconnects = t.maxReconnects
  reconnectIntervalMsecs : t'.reconnectIntervalMsecs = t.reconnectIntervalMsecs
  currentReconnectAttempts : t'.currentReconnectAttempts = t.currentReconnectAttempts
  dialled : t'.client.client.dialled = t.client.client.dialled ++ dials

theorem Kept.refl (t : Session) : Kept [] t t :=
  ⟨rfl, rfl, rfl, rfl, rfl, rfl, rfl, rfl, (List.append_nil _).symm⟩

theorem Kept.trans {dials dials' : List Endpoint} {t₁ t₂ t₃ : Session} (h : Kept dials t₁ t₂)
    (h' : Kept dials' t₂ t₃) : Kept (dials ++ dials') t₁ t₃ :=
  ⟨h'.redisServer.trans h.redisServer, h'.redisPort.trans h.redisPort,
    h'.masterName.trans h.masterName, h'.sentinel.trans h.sentinel,
    h'.connectTimeoutMsecs.trans h.connectTimeoutMsecs, h'.maxReconnects.trans h.maxReconnects,
    h'.reconnectIntervalMsecs.trans h.reconnectIntervalMsecs,
    h'.currentReconnectAttempts.trans h.currentReconnectAttempts, by
      rw [h'.dialled, h.dialled, List.append_assoc]⟩

theorem Kept.trans_nil {dials : List Endpoint} {t₁ t₂ t₃ : Session} (h : Kept dials t₁ t₂)
    (h' : Kept [] t₂ t₃) : Kept dials t₁ t₃ := by
  have htrans := h.trans h'
  rwa [List.append_nil] at htrans

theorem Aimed.kept {dials : List Endpoint} {t t' : Session} {target : Target}
    (h : t.Aimed target) (hkept : Kept dials t t') : t'.Aimed target := by
  refine ⟨?_, hkept.connectTimeoutMsecs.trans h.timeoutMsecs,
    hkept.maxReconnects.trans h.maxReconnects,
    hkept.reconnectIntervalMsecs.trans h.reconnectIntervalMsecs⟩
  rw [hkept.masterName, hkept.redisServer, hkept.redisPort]
  exact h.place

/-- The parameters of a call of `connect`, saved over those of the same target. -/
theorem Aimed.saveConnect {t : Session} {target : Target} (h : t.Aimed target)
    {p : Session.ConnectParams}
    (hplace : t.masterName = [] → p.host = t.redisServer ∧ p.port = t.redisPort)
    (hmax : p.maxReconnects = t.maxReconnects)
    (hinterval : p.reconnectIntervalMsecs = t.reconnectIntervalMsecs) :
    (t.saveConnect p).Aimed target := by
  refine ⟨?_, h.timeoutMsecs, hmax.trans h.maxReconnects,
    hinterval.trans h.reconnectIntervalMsecs⟩
  have hsaved := h.place
  obtain ⟨place, timeoutMsecs, maxReconnects, reconnectIntervalMsecs⟩ := target
  cases place with
  | address host port =>
    obtain ⟨hname, hserver, hport⟩ := hsaved
    obtain ⟨hhost, hport'⟩ := hplace hname
    exact ⟨hname, hhost.trans hserver, hport'.trans hport⟩
  | master name => exact hsaved

/-- An object that goes to a master does not keep its address. -/
theorem Aimed.readdressed {t : Session} {target : Target} (h : t.Aimed target)
    (hname : t.masterName ≠ []) (host : Bytes) (port : Nat) :
    Aimed { t with redisServer := host, redisPort := port } target := by
  refine ⟨?_, h.timeoutMsecs, h.maxReconnects, h.reconnectIntervalMsecs⟩
  have hsaved := h.place
  obtain ⟨place, timeoutMsecs, maxReconnects, reconnectIntervalMsecs⟩ := target
  cases place with
  | address host port => exact absurd hsaved.1 hname
  | master name => exact hsaved

theorem Aimed.countAttempt {t : Session} {target : Target} (h : t.Aimed target) :
    t.countAttempt.Aimed target :=
  ⟨h.place, h.timeoutMsecs, h.maxReconnects, h.reconnectIntervalMsecs⟩

/-- An attempt without the name of a master dials the saved address. -/
theorem Aimed.endpoint_address {t : Session} {target : Target} (h : t.Aimed target)
    (hname : t.masterName = []) (lookup : Lookup) :
    t.endpoint target lookup = some ⟨t.redisServer, t.redisPort % 2 ^ 32, t.connectTimeoutMsecs⟩ := by
  have hsaved := h.place
  have htimeout := h.timeoutMsecs
  obtain ⟨place, timeoutMsecs, maxReconnects, reconnectIntervalMsecs⟩ := target
  cases place with
  | address host port =>
    obtain ⟨-, hserver, hport⟩ := hsaved
    rw [hserver, hport, htimeout]
    rfl
  | master name => exact absurd (hsaved.2.symm.trans hname) hsaved.1

/-- An attempt with the name of a master dials the address that its lookup gives. -/
theorem Aimed.endpoint_master {t : Session} {target : Target} (h : t.Aimed target)
    (hname : t.masterName ≠ []) (lookup : Lookup) :
    t.endpoint target lookup = (t.resolved lookup).map fun address =>
      ⟨address.1, address.2 % 2 ^ 32, t.connectTimeoutMsecs⟩ := by
  have hsaved := h.place
  have htimeout := h.timeoutMsecs
  obtain ⟨place, timeoutMsecs, maxReconnects, reconnectIntervalMsecs⟩ := target
  cases place with
  | address host port => exact absurd hsaved.1 hname
  | master name =>
    rw [htimeout]
    rfl

/-- A reconnection to the target has made an attempt with each of these lookups. -/
structure Tried (target : Target) (lookups : List Lookup) (t t' : Session) : Prop where
  aimed : t'.Aimed target
  sentinel : t'.sentinel = t.sentinel
  attempts : t'.currentReconnectAttempts = t.currentReconnectAttempts + lookups.length
  dialled : t'.client.client.dialled =
    t.client.client.dialled ++ lookups.filterMap (t.endpoint target)

theorem endpoint_congr {t t' : Session} (h : t'.sentinel = t.sentinel) (target : Target) :
    t'.endpoint target = t.endpoint target := by
  have hresolved : t'.resolved = t.resolved := by
    funext lookup
    unfold resolved
    rw [h]
  unfold endpoint
  rw [hresolved]

theorem Aimed.tried {t : Session} {target : Target} (h : t.Aimed target) : Tried target [] t t :=
  ⟨h, rfl, (Int.add_zero _).symm, (List.append_nil _).symm⟩

theorem Tried.trans {target : Target} {lookups lookups' : List Lookup} {t₁ t₂ t₃ : Session}
    (h : Tried target lookups t₁ t₂) (h' : Tried target lookups' t₂ t₃) :
    Tried target (lookups ++ lookups') t₁ t₃ := by
  refine ⟨h'.aimed, h'.sentinel.trans h.sentinel, ?_, ?_⟩
  · rw [h'.attempts, h.attempts, List.length_append]
    omega
  · rw [h'.dialled, h.dialled, endpoint_congr h.sentinel, List.filterMap_append, List.append_assoc]

/-- What follows an attempt changes nothing that it read. -/
theorem Tried.kept {target : Target} {lookups : List Lookup} {t₁ t₂ t₃ : Session}
    (h : Tried target lookups t₁ t₂) (hkept : Kept [] t₂ t₃) : Tried target lookups t₁ t₃ := by
  refine ⟨h.aimed.kept hkept, hkept.sentinel.trans h.sentinel,
    hkept.currentReconnectAttempts.trans h.attempts, ?_⟩
  rw [hkept.dialled, List.append_nil, h.dialled]

/-- One attempt, counted and with its lookup done in `t₂`. -/
theorem Aimed.tried_one {target : Target} {lookup : Lookup} {t₁ t₂ t₃ : Session}
    (h : t₂.Aimed target) (hsentinel : t₂.sentinel = t₁.sentinel)
    (hattempts : t₂.currentReconnectAttempts = t₁.currentReconnectAttempts + 1)
    (hdialled : t₂.client.client.dialled = t₁.client.client.dialled)
    (hkept : Kept (t₁.endpoint target lookup).toList t₂ t₃) : Tried target [lookup] t₁ t₃ := by
  refine ⟨h.kept hkept, hkept.sentinel.trans hsentinel,
    hkept.currentReconnectAttempts.trans hattempts, ?_⟩
  rw [hkept.dialled, hdialled]
  cases hend : t₁.endpoint target lookup with
  | none => rw [List.filterMap_cons_none hend]; rfl
  | some endpoint => rw [List.filterMap_cons_some hend]; rfl

end Session

/-! ## Attempts -/

namespace Owner

variable {σ : Type} {o : Owner σ}

/-- Nothing that a reconnection reads is changed. -/
def Keeps (o : Owner σ) (s s' : σ) : Prop :=
  Session.Kept [] (o.session.get s) (o.session.get s')

/-- The connect callback returns, and leaves the connection open or closed as it was and
what a reconnection reads alone. -/
def Discreet (o : Owner σ) : Prop :=
  ∀ n s, ∃ s', o.notify n s = .ok () s' ∧ o.Keeps s s' ∧
    (o.session.get s').isConnected = (o.session.get s).isConnected

/-- Nothing but `connect` writes what a reconnection reads. -/
structure Steady (o : Owner σ) : Prop where
  notify : o.Discreet
  resume : ∀ s, o.Keeps s (after o.resume s)
  giveUp : ∀ s, o.Keeps s (after o.giveUp s)

/-- A change of the session. -/
theorem get_update (f : Session → Session) (s : σ) :
    o.session.get (o.session.update f s) = f (o.session.get s) :=
  o.session.get_set _ _

theorem keeps_update {f : Session → Session} (hf : ∀ t, Session.Kept [] t (f t)) (s : σ) :
    o.Keeps s (o.session.update f s) := by
  unfold Keeps
  rw [get_update]
  exact hf _

theorem Keeps.of_follows {α : Type} {p : EStateM Fault σ α} (h : Follows o.Keeps p) (s : σ) :
    o.Keeps s (after p s) :=
  h.keeps (I := o.Keeps s) (fun _ _ hstep hs => hs.trans_nil hstep) (.refl _)

/-- The connection is lost, and no other thread calls the object in between. -/
def drop (o : Owner σ) (attempts : List Attempt) : EStateM Fault σ Bool := do
  modify (o.session.update Session.lose)
  if (o.session.get (← get)).client.disconnectionHandler then
    o.connectionDisconnectionHandler id attempts
  else pure true

/-- The attempts of a reconnection to the target that `t` has made so far, if `t'` is where
they led: the first ones of the list, and no more than the target allows. -/
def Returned (target : Target) (attempts : List Attempt) (t t' : Session) : Prop :=
  t'.Aimed target ∧ ∃ n : Nat,
    (n = 0 ∨ target.maxReconnects = -1 ∨ (n : Int) ≤ target.maxReconnects) ∧
    t'.client.client.dialled = t.client.client.dialled ++
      (attempts.take n).filterMap fun a => t.endpoint target a.lookup

namespace Steady

variable (h : Steady o)
include h

theorem callConnectCallback (host : Bytes) (port : Nat) (state : ConnectState) (s : σ) :
    ∃ s', o.callConnectCallback host port state s = .ok () s' ∧ o.Keeps s s' ∧
      (o.session.get s').isConnected = (o.session.get s).isConnected := by
  unfold Owner.callConnectCallback
  rw [get_bind]
  split
  · rw [modify_bind]
    obtain ⟨s', hn, hkept, hc⟩ := h.notify ⟨host, port, state⟩
      (o.session.update (·.record ⟨host, port, state⟩) s)
    have hrecord : o.Keeps s (o.session.update (·.record ⟨host, port, state⟩) s) :=
      keeps_update (f := (·.record ⟨host, port, state⟩)) (fun t =>
        ⟨rfl, rfl, rfl, rfl, rfl, rfl, rfl, rfl, (List.append_nil _).symm⟩) s
    refine ⟨s', hn, hrecord.trans_nil hkept, hc.trans ?_⟩
    rw [get_update]
    rfl
  · exact ⟨s, rfl, .refl _, rfl⟩

theorem notifyState_follows (state : ConnectState) : Follows o.Keeps (o.notifyState state) := by
  intro s
  obtain ⟨s', hn, hkept, -⟩ := h.callConnectCallback (o.session.get s).redisServer
    (o.session.get s).redisPort state s
  rw [after_ok (show o.notifyState state s = .ok () s' from hn)]
  exact .single hkept

/-- What `connect` does: it saves the parameters and dials, and it opens a connection where
there is none and the server accepts. -/
theorem connect_cases (p : Session.ConnectParams) (accepted : Bool) (s : σ) :
    ∃ s', Session.Kept [⟨p.host, p.port % 2 ^ 32, p.timeoutMsecs⟩]
        ((o.session.get s).saveConnect p) (o.session.get s') ∧
      (((o.session.get s).isConnected = false ∧ accepted = true) ∧
          o.connect p accepted s = .ok () s' ∧ (o.session.get s').isConnected = true ∨
        ¬ ((o.session.get s).isConnected = false ∧ accepted = true) ∧
          (∃ what, o.connect p accepted s = .error (.redisError what) s') ∧
            (o.session.get s').isConnected = (o.session.get s).isConnected) := by
  unfold Owner.connect
  rw [modify_bind]
  obtain ⟨s₁, hstart, hkept, hc⟩ := h.callConnectCallback p.host p.port .start
    (o.session.update (·.saveConnect p) s)
  unfold Keeps at hkept
  rw [get_update] at hkept hc
  rw [bind_ok hstart]
  by_cases hopens : (o.session.get s).isConnected = false ∧ accepted = true
  · obtain ⟨hclosed, rfl⟩ := hopens
    have haccept := o.session.zoom_ok (s := s₁) (Session.connection.zoom_ok
      (RedisConnection.connect_accepted p.host p.port true true p.timeoutMsecs (hc.trans hclosed)))
    rw [bind_ok haccept]
    generalize hs₂ : o.session.set _ s₁ = s₂
    have hget : o.session.get s₂ = { o.session.get s₁ with
        client := (o.session.get s₁).client.accept ⟨p.host, p.port % 2 ^ 32, p.timeoutMsecs⟩ true
          true } := by
      rw [← hs₂]
      exact o.session.get_set _ _
    have hdialled : Session.Kept [⟨p.host, p.port % 2 ^ 32, p.timeoutMsecs⟩] (o.session.get s₁)
        (o.session.get s₂) := by
      rw [hget]
      exact ⟨rfl, rfl, rfl, rfl, rfl, rfl, rfl, rfl, rfl⟩
    obtain ⟨s', hok, hkept', hc'⟩ := h.callConnectCallback (o.session.get s₂).redisServer
      (o.session.get s₂).redisPort .ok s₂
    refine ⟨s', (hkept.trans hdialled).trans_nil hkept', .inl ⟨⟨hclosed, rfl⟩, hok, hc'.trans ?_⟩⟩
    rw [hget]
    rfl
  · have hrefused : (o.session.get s₁).client.client.connected = true ∨ accepted = false := by
      rcases Bool.eq_false_or_eq_true (o.session.get s).isConnected with ho | hclosed
      · exact .inl (hc.trans ho)
      · exact .inr (Bool.eq_false_iff.mpr fun ha => hopens ⟨hclosed, ha⟩)
    have hrefuse := o.session.zoom_error (s := s₁) (Session.connection.zoom_error
      (RedisConnection.connect_refused p.host p.port true true p.timeoutMsecs hrefused))
    rw [bind_error hrefuse]
    refine ⟨_, hkept.trans ?_, .inr ⟨hopens, ⟨_, rfl⟩, ?_⟩⟩
    · rw [o.session.get_set]
      exact ⟨rfl, rfl, rfl, rfl, rfl, rfl, rfl, rfl, rfl⟩
    · rw [o.session.get_set]
      exact hc

/-- An attempt that calls `connect` dials what is saved, and saves it again. -/
theorem tryConnect_kept (accepted : Bool) (s : σ) :
    ∃ s', o.tryConnect accepted s = .ok () s' ∧
      Session.Kept [⟨(o.session.get s).redisServer, (o.session.get s).redisPort % 2 ^ 32,
        (o.session.get s).connectTimeoutMsecs⟩] (o.session.get s) (o.session.get s') := by
  obtain ⟨s', hkept, ⟨-, hok, -⟩ | ⟨-, ⟨what, herror⟩, -⟩⟩ :=
    h.connect_cases (o.session.get s).reconnectParams accepted s
  · exact ⟨s', catch_ok hok _, hkept⟩
  · exact ⟨s', (catch_error herror _).trans rfl, hkept⟩

/-- `reconnect`, once its lookup gave an address. -/
theorem dial_kept (a : Attempt) (s : σ) :
    Session.Kept [⟨(o.session.get s).redisServer, (o.session.get s).redisPort % 2 ^ 32,
        (o.session.get s).connectTimeoutMsecs⟩] (o.session.get s)
      (o.session.get (after (do
        o.tryConnect a.accepted
        if (o.session.get (← get)).isConnected then
          o.notifyState .ok
          if a.lost then modify (o.session.update Session.lose)
          o.resume
        else
          o.notifyState .failed) s)) := by
  obtain ⟨s', htry, hkept⟩ := h.tryConnect_kept a.accepted s
  rw [after_bind_ok htry]
  have hlose (s : σ) : o.Keeps s (o.session.update Session.lose s) :=
    keeps_update (f := Session.lose) (fun t =>
      ⟨rfl, rfl, rfl, rfl, rfl, rfl, rfl, rfl, (List.append_nil _).symm⟩) s
  have hresume : Follows o.Keeps o.resume := fun s => .single (h.resume s)
  refine hkept.trans_nil (Keeps.of_follows (.bind .get fun s => .ite ?_ (h.notifyState_follows _)) s')
  refine .bind (h.notifyState_follows _) fun _ => ?_
  exact .ite (.bind (.modify hlose) fun _ => hresume) hresume

/-- An attempt that starts aimed stays aimed, and dials the endpoint of the target: without
the name of a master it does not look anything up. -/
theorem reconnect_address {target : Target} (a : Attempt) {s : σ}
    (hs : (o.session.get s).Aimed target) (hname : (o.session.get s).masterName = []) :
    Session.Tried target [a.lookup] (o.session.get s) (o.session.get (after (o.reconnect a) s)) := by
  unfold Owner.reconnect
  rw [after_modify_bind]
  generalize hs₁ : o.session.update Session.countAttempt s = s₁
  have hget : o.session.get s₁ = (o.session.get s).countAttempt := by
    rw [← hs₁]
    exact get_update _ _
  have hfind : o.findMaster a.lookup s₁ = .ok true s₁ := by
    unfold Owner.findMaster
    rw [get_bind, hget]
    exact congrFun (if_pos (List.isEmpty_iff.mpr hname)) s₁
  rw [after_bind_ok hfind, if_pos rfl]
  have hdial := h.dial_kept a s₁
  rw [hget] at hdial
  refine hs.countAttempt.tried_one rfl rfl rfl ?_
  rw [hs.endpoint_address hname]
  exact hdial

/-- The same with the name of a master, which is looked up: an attempt whose lookup gives no
address does not dial. -/
theorem reconnect_master {target : Target} (a : Attempt) {s : σ}
    (hs : (o.session.get s).Aimed target) (hname : (o.session.get s).masterName ≠ []) :
    Session.Tried target [a.lookup] (o.session.get s) (o.session.get (after (o.reconnect a) s)) := by
  unfold Owner.reconnect
  rw [after_modify_bind]
  generalize hs₁ : o.session.update Session.countAttempt s = s₁
  have hget : o.session.get s₁ = (o.session.get s).countAttempt := by
    rw [← hs₁]
    exact get_update _ _
  have hfind : o.findMaster a.lookup s₁ = o.session.zoom (Session.getMasterAddrByName a.lookup) s₁ := by
    unfold Owner.findMaster
    rw [get_bind, hget]
    exact congrFun (if_neg fun hempty => hname (List.isEmpty_iff.mp hempty)) s₁
  generalize o.session.get s = t at hs hname hget ⊢
  have haimed (host : Bytes) (port : Nat) := hs.countAttempt.readdressed hname host port
  have hset (host : Bytes) (port : Nat) : o.session.get (o.session.set
      { t.countAttempt with redisServer := host, redisPort := port } s₁) =
        { t.countAttempt with redisServer := host, redisPort := port } :=
    o.session.get_set _ _
  have hend := hs.endpoint_master hname a.lookup
  rcases Session.getMasterAddrByName_cases a.lookup t.countAttempt with
    ⟨host, port, hresolved, hlookup⟩ | ⟨hresolved, host, port, hlookup | ⟨e, hlookup⟩⟩
  · rw [← hget] at hlookup
    rw [after_bind_ok (hfind.trans (o.session.zoom_ok hlookup)), if_pos rfl, hget]
    have hdial := h.dial_kept a (o.session.set
      { t.countAttempt with redisServer := host, redisPort := port } s₁)
    rw [hset] at hdial
    refine (haimed host port).tried_one rfl rfl rfl ?_
    rw [hend, show t.resolved a.lookup = some (host, port) from hresolved]
    exact hdial
  · rw [← hget] at hlookup
    rw [after_bind_ok (hfind.trans (o.session.zoom_ok hlookup)), if_neg Bool.false_ne_true, hget]
    have hkept := Keeps.of_follows (h.notifyState_follows .lookupFailed) (o.session.set
      { t.countAttempt with redisServer := host, redisPort := port } s₁)
    unfold Keeps at hkept
    rw [hset] at hkept
    refine (haimed host port).tried_one rfl rfl rfl ?_
    rw [hend, show t.resolved a.lookup = none from hresolved]
    exact hkept
  · rw [← hget] at hlookup
    rw [after_bind_error (hfind.trans (o.session.zoom_error hlookup)), hget, hset]
    refine (haimed host port).tried_one rfl rfl rfl ?_
    rw [hend, show t.resolved a.lookup = none from hresolved]
    exact .refl _

theorem reconnect_tried {target : Target} (a : Attempt) {s : σ}
    (hs : (o.session.get s).Aimed target) :
    Session.Tried target [a.lookup] (o.session.get s) (o.session.get (after (o.reconnect a) s)) := by
  by_cases hname : (o.session.get s).masterName = []
  · exact h.reconnect_address a hs hname
  · exact h.reconnect_master a hs hname

/-- The loop, by induction on its attempts. It makes no more of them than the target
allows. -/
theorem reconnectLoop_tried {target : Target} (attempts : List Attempt) {s : σ}
    (hs : (o.session.get s).Aimed target) :
    ∃ n : Nat, Session.Tried target ((attempts.take n).map Attempt.lookup) (o.session.get s)
        (o.session.get (after (o.reconnectLoop attempts) s)) ∧
      (n = 0 ∨ target.maxReconnects = -1 ∨
        (o.session.get s).currentReconnectAttempts + n ≤ target.maxReconnects) := by
  induction attempts generalizing s with
  | nil => exact ⟨0, hs.tried, .inl rfl⟩
  | cons a attempts ih =>
    unfold Owner.reconnectLoop
    rw [after_get_bind]
    split
    · next hshould =>
      obtain ⟨s₁, hsleep, hkept⟩ : ∃ s₁, o.sleepBeforeNextReconnectAttempt s = .ok () s₁ ∧
          o.Keeps s s₁ := by
        unfold Owner.sleepBeforeNextReconnectAttempt
        rw [get_bind]
        split
        · exact ⟨s, rfl, .refl _⟩
        · obtain ⟨s₁, hn, hkept, -⟩ := h.callConnectCallback (o.session.get s).redisServer
            (o.session.get s).redisPort .sleeping s
          exact ⟨s₁, hn, hkept⟩
      have hone := (hs.tried.kept hkept).trans (h.reconnect_tried a (hs.kept hkept))
      have hallowed : target.maxReconnects = -1 ∨
          (o.session.get s).currentReconnectAttempts + 1 ≤ target.maxReconnects := by
        rw [← hs.maxReconnects]
        exact (Session.shouldReconnect_iff.mp hshould).2.2
      rw [after_bind_ok hsleep]
      cases hreconnect : o.reconnect a s₁ with
      | error e s₂ =>
        rw [after_bind_error hreconnect]
        rw [after_error hreconnect] at hone
        exact ⟨1, hone, .inr hallowed⟩
      | ok u s₂ =>
        rw [after_bind_ok hreconnect]
        rw [after_ok hreconnect] at hone
        obtain ⟨n, hrest, hlimit⟩ := ih hone.aimed
        refine ⟨n + 1, hone.trans hrest, .inr ?_⟩
        have hcount := hone.attempts
        rw [List.length_append, List.length_nil, List.length_singleton] at hcount
        rcases hlimit with rfl | hmax | hlimit
        · exact hallowed
        · exact .inl hmax
        · refine .inr ?_
          rw [hcount] at hlimit
          omega
    · exact ⟨0, hs.tried, .inl rfl⟩

/-- The end of the handler, after the loop. -/
theorem finishReconnection_follows : Follows o.Keeps o.finishReconnection := by
  have hend (s : σ) : o.Keeps s (o.session.update Session.endReconnection s) :=
    keeps_update (f := Session.endReconnection) (fun t =>
      ⟨rfl, rfl, rfl, rfl, rfl, rfl, rfl, rfl, (List.append_nil _).symm⟩) s
  refine .bind .get fun s => .ite ?_ (.modify hend)
  exact .bind (fun s => .single (h.giveUp s)) fun _ => .bind (h.notifyState_follows _) fun _ =>
    .modify hend

/-- The handler of a lost connection. -/
theorem handler_returned {target : Target} (attempts : List Attempt) {s : σ}
    (hs : (o.session.get s).Aimed target) :
    Returned target attempts (o.session.get s)
      (o.session.get (after (o.connectionDisconnectionHandler id attempts) s)) := by
  unfold Owner.connectionDisconnectionHandler
  rw [after_get_bind]
  split
  · exact ⟨hs, 0, .inl rfl, (List.append_nil _).symm⟩
  · rw [after_modify_bind]
    obtain ⟨s₁, hdropped, hkept, -⟩ := h.callConnectCallback
      (o.session.get (o.session.update Session.beginReconnection s)).redisServer
      (o.session.get (o.session.update Session.beginReconnection s)).redisPort .dropped
      (o.session.update Session.beginReconnection s)
    unfold Keeps at hkept
    rw [get_update] at hkept
    have hbegun : (o.session.get s).beginReconnection.Aimed target :=
      ⟨hs.place, hs.timeoutMsecs, hs.maxReconnects, hs.reconnectIntervalMsecs⟩
    obtain ⟨n, htried, hlimit⟩ := h.reconnectLoop_tried attempts (hbegun.kept hkept)
    -- the attempts are counted from zero, and the counter is not read any more
    have hall := (hbegun.tried.kept hkept).trans htried
    have hlimit : n = 0 ∨ target.maxReconnects = -1 ∨ (n : Int) ≤ target.maxReconnects := by
      rw [hkept.currentReconnectAttempts] at hlimit
      have hzero : (o.session.get s).beginReconnection.currentReconnectAttempts = 0 := rfl
      rw [hzero, Int.zero_add] at hlimit
      exact hlimit
    have hreturned {s' : σ} (hs' : Session.Kept [] (o.session.get (after (o.reconnectLoop attempts) s₁))
        (o.session.get s')) : Returned target attempts (o.session.get s) (o.session.get s') := by
      have hdialled := (hall.kept hs').dialled
      rw [List.nil_append, List.filterMap_map] at hdialled
      exact ⟨(hall.kept hs').aimed, n, hlimit, hdialled⟩
    rw [after_bind_ok (show o.notifyState .dropped _ = .ok () s₁ from hdropped), after_modify_bind, id]
    cases hloop : o.reconnectLoop attempts s₁ with
    | error e s₂ =>
      rw [after_bind_error hloop]
      rw [after_error hloop] at hreturned
      exact hreturned (.refl _)
    | ok left s₂ =>
      rw [after_bind_ok hloop]
      rw [after_ok hloop] at hreturned
      refine hreturned (Keeps.of_follows (.ite ?_ (.pure _)) s₂)
      exact .bind h.finishReconnection_follows fun _ => .pure _

theorem drop_returned {target : Target} (attempts : List Attempt) {s : σ}
    (hs : (o.session.get s).Aimed target) :
    Returned target attempts (o.session.get s) (o.session.get (after (o.drop attempts) s)) := by
  unfold Owner.drop
  rw [after_modify_bind, after_get_bind]
  have hlost : Session.Kept [] (o.session.get s) (o.session.get (o.session.update Session.lose s)) :=
    keeps_update (f := Session.lose) (fun t =>
      ⟨rfl, rfl, rfl, rfl, rfl, rfl, rfl, rfl, (List.append_nil _).symm⟩) s
  split
  · obtain ⟨haimed, n, hlimit, hdialled⟩ := h.handler_returned attempts (hs.kept hlost)
    refine ⟨haimed, n, hlimit, ?_⟩
    rw [hdialled, hlost.dialled, List.append_nil, Session.endpoint_congr hlost.sentinel]
  · exact ⟨hs.kept hlost, 0, .inl rfl, hlost.dialled⟩

end Steady

end Owner

/-! ## Clients and subscribers -/

section Sides

variable {κ : Type}

/-- What was sent and committed: of the session, the connection and the password were written, and
nothing was dialled. -/
def Session.Sent (t t' : Session) : Prop :=
  t' = { t with client := t'.client, password := t'.password } ∧
    t'.client.client.dialled = t.client.client.dialled

theorem Session.Sent.trans {t₁ t₂ t₃ : Session} (h : Sent t₁ t₂) (h' : Sent t₂ t₃) : Sent t₁ t₃ := by
  refine ⟨?_, h'.2.trans h.2⟩
  rw [h'.1, h.1]

theorem Session.Sent.kept {t t' : Session} (h : Sent t t') : Kept [] t t' := by
  rw [h.1]
  exact ⟨rfl, rfl, rfl, rfl, rfl, rfl, rfl, rfl, h.2.trans (List.append_nil _).symm⟩

namespace Client

/-- `resume` sends and commits. -/
theorem resume_sent (c : Client κ) : c.toSession.Sent (after resume c).toSession := by
  have hfollows : Follows (fun c c' : Client κ => c.toSession.Sent c'.toSession) resume := by
    refine .bind (.modify fun c => ?_) fun _ => .bind (.modify fun c => ?_) fun _ =>
      .bind (.modify fun c => ?_) fun _ => fun c => .single ?_
    · unfold reAuth
      split <;> exact ⟨rfl, rfl⟩
    · unfold reSelect
      split <;> exact ⟨rfl, rfl⟩
    · rw [resendFailedCommands_eq]
      exact ⟨rfl, rfl⟩
    · cases hc : c.client.client.connected with
      | true =>
        rw [after_ok (tryCommit_connected hc)]
        exact ⟨rfl, rfl⟩
      | false =>
        rw [after_error (tryCommit_disconnected hc)]
        unfold clearCallbacks
        split <;> exact ⟨rfl, rfl⟩
  exact hfollows.keeps (I := fun c' => c.toSession.Sent c'.toSession)
    (fun _ _ hstep hc => hc.trans hstep) ⟨rfl, rfl⟩

theorem clearCallbacks_session (c : Client κ) : c.clearCallbacks.toSession = c.toSession := by
  unfold clearCallbacks
  split <;> rfl

theorem steady {notify : Notification → EStateM Fault (Client κ) Unit}
    (hn : (owner notify).Discreet) : (owner notify).Steady where
  notify := hn
  resume c := (resume_sent c).kept
  giveUp c := by
    show Session.Kept [] c.toSession c.clearCallbacks.toSession
    rw [clearCallbacks_session]
    exact .refl _

end Client

namespace Subscriber

/-- `resume` sends and commits. -/
theorem resume_sent (s : Subscriber κ) : s.toSession.Sent (after resume s).toSession := by
  have hfollows : Follows (fun s s' : Subscriber κ => s.toSession.Sent s'.toSession) resume := by
    refine .bind (.modify fun s => ?_) fun _ => .bind (.modify fun s => ?_) fun _ =>
      fun s => .single ?_
    · unfold reAuth
      split <;> exact ⟨rfl, rfl⟩
    · unfold reSubscribe
      rw [foldl_unprotectedSubscribe]
      dsimp only
      rw [foldl_unprotectedPsubscribe]
      exact ⟨rfl, rfl⟩
    · unfold commit
      rw [connection.after_zoom]
      cases hc : s.client.client.connected with
      | true =>
        rw [after_ok (RedisConnection.commit_connected (c := connection.get s) hc)]
        exact ⟨rfl, rfl⟩
      | false =>
        rw [after_error (RedisConnection.commit_disconnected (c := connection.get s) hc)]
        exact ⟨rfl, rfl⟩
  exact hfollows.keeps (I := fun s' => s.toSession.Sent s'.toSession)
    (fun _ _ hstep hs => hs.trans hstep) ⟨rfl, rfl⟩

theorem steady {notify : Notification → EStateM Fault (Subscriber κ) Unit}
    (hn : (owner notify).Discreet) : (owner notify).Steady where
  notify := hn
  resume s := (resume_sent s).kept
  giveUp _ := .refl _

end Subscriber

/-- A client or a subscriber. -/
inductive Side
  | client
  | subscriber
deriving DecidableEq, Repr

namespace Side

abbrev State (κ : Type) : Side → Type
  | client => Client κ
  | subscriber => Subscriber κ

/-- One that was made and not used yet. -/
def new (sentinel : Sentinel) (what : String) : (side : Side) → side.State κ
  | client => { client := { client := { what := what } }, sentinel := sentinel }
  | subscriber => { client := { client := { what := what } }, sentinel := sentinel }

def owner : (side : Side) → (Notification → EStateM Fault (side.State κ) Unit) → Owner (side.State κ)
  | client => Client.owner
  | subscriber => Subscriber.owner

def connect : (side : Side) → (Notification → EStateM Fault (side.State κ) Unit) →
    Session.ConnectParams → Bool → EStateM Fault (side.State κ) Unit
  | client => Client.connect
  | subscriber => Subscriber.connect

def connectByName : (side : Side) → (Notification → EStateM Fault (side.State κ) Unit) →
    Bytes → Session.ConnectParams → Lookup → Bool → EStateM Fault (side.State κ) Unit
  | client => Client.connectByName
  | subscriber => Subscriber.connectByName

def disconnect : (side : Side) → side.State κ → side.State κ
  | client => Client.disconnect
  | subscriber => Subscriber.disconnect

/-- The connection is lost, and no other thread calls the object in between. -/
def drop : (side : Side) → (Notification → EStateM Fault (side.State κ) Unit) → List Attempt →
    EStateM Fault (side.State κ) Bool
  | client => fun notify => Client.drop notify id id
  | subscriber => fun notify => Subscriber.drop notify id id

variable {side : Side} {notify : Notification → EStateM Fault (side.State κ) Unit}

theorem steady (hn : (side.owner notify).Discreet) : (side.owner notify).Steady := by
  cases side with
  | client => exact Client.steady hn
  | subscriber => exact Subscriber.steady hn

theorem connect_eq : side.connect notify = (side.owner notify).connect := by
  cases side <;> rfl

theorem connectByName_eq (name : Bytes) : ∃ what, side.connectByName notify name =
    (side.owner notify).connectByName what name := by
  cases side <;> exact ⟨_, rfl⟩

theorem drop_eq : side.drop notify = (side.owner notify).drop := by
  cases side <;> rfl

theorem get_disconnect (s : side.State κ) :
    (side.owner notify).session.get (side.disconnect s) =
      { (side.owner notify).session.get s with
        client := ((side.owner notify).session.get s).client.disconnect } := by
  cases side with
  | client =>
    show (Client.clearCallbacks _).toSession = _
    unfold Client.clearCallbacks
    split <;> rfl
  | subscriber => rfl

end Side

/-! ## Runs -/

/-- A client or a subscriber, and what its last call of `connect` that succeeded asked for. -/
structure Traveller (κ : Type) (side : Side) where
  state : side.State κ
  last : Option Target := none

namespace Traveller

/-- What happens. The host and the port in the parameters of `connectByName` are not used. -/
inductive Event
  | connect (p : Session.ConnectParams) (accepted : Bool)
  | connectByName (name : Bytes) (p : Session.ConnectParams) (lookup : Lookup) (accepted : Bool)
  | disconnect
  | drop (attempts : List Attempt)

variable {side : Side} (notify : Notification → EStateM Fault (side.State κ) Unit)

/-- The session of the object. -/
def session (w : Traveller κ side) : Session :=
  (side.owner notify).session.get w.state

/-- A call of `connect` that returns is what a reconnection is to go back to. -/
def called (w : Traveller κ side) (target : Target) :
    EStateM.Result Fault (side.State κ) Unit → Traveller κ side
  | .ok _ s => { state := s, last := some target }
  | .error _ s => { w with state := s }

def step (w : Traveller κ side) : Event → Traveller κ side
  | .connect p accepted =>
    w.called ⟨.address p.host p.port, p.timeoutMsecs, p.maxReconnects, p.reconnectIntervalMsecs⟩
      (side.connect notify p accepted w.state)
  | .connectByName name p lookup accepted =>
    w.called ⟨.master name, p.timeoutMsecs, p.maxReconnects, p.reconnectIntervalMsecs⟩
      (side.connectByName notify name p lookup accepted w.state)
  | .disconnect => { w with state := side.disconnect w.state }
  | .drop attempts => { w with state := after (side.drop notify attempts) w.state }

/-- An open connection is lost, and its handler is left or throws. -/
def Enabled (w : Traveller κ side) : Event → Prop
  | .drop attempts =>
    (w.session notify).isConnected = true ∧ value (side.drop notify attempts) w.state ≠ some false
  | _ => True

/-- Calls of `connect` by the user, calls of `disconnect`, and lost connections. -/
def machine : Machine (Traveller κ side) Event where
  enabled := Enabled notify
  step := step notify

/-- The call leaves what it asks for behind if it succeeds, and what was asked for before if
it fails with a connection open. -/
def Faithful (w : Traveller κ side) : Event → Prop
  | .connect p accepted =>
    let t := w.session notify
    if t.isConnected then
      (t.masterName = [] → p.host = t.redisServer ∧ p.port = t.redisPort) ∧
        p.maxReconnects = t.maxReconnects ∧ p.reconnectIntervalMsecs = t.reconnectIntervalMsecs
    else accepted = true → t.masterName = [] ∧ p.timeoutMsecs = 0
  | .connectByName name p lookup accepted =>
    let t := w.session notify
    if t.isConnected then
      name = t.masterName ∧
        (name = [] → t.resolved lookup = some (t.redisServer, t.redisPort)) ∧
        ((t.resolved lookup).isSome = true → p.maxReconnects = t.maxReconnects ∧
          p.reconnectIntervalMsecs = t.reconnectIntervalMsecs)
    else (t.resolved lookup).isSome = true → accepted = true → name ≠ [] ∧ p.timeoutMsecs = 0
  | _ => True

instance (w : Traveller κ side) : (e : Event) → Decidable (Enabled notify w e)
  | .connect .. | .connectByName .. | .disconnect => .isTrue trivial
  | .drop _ => inferInstanceAs (Decidable (_ ∧ _))

instance (w : Traveller κ side) (e : Event) : Decidable ((machine notify).enabled w e) :=
  inferInstanceAs (Decidable (Enabled notify w e))

instance (w : Traveller κ side) : (e : Event) → Decidable (Faithful notify w e)
  | .disconnect | .drop _ => .isTrue trivial
  | .connect p accepted => by
    unfold Faithful
    infer_instance
  | .connectByName name p lookup accepted => by
    unfold Faithful
    infer_instance

/-- The timeout is never saved; and while there is a connection, a call has succeeded, and
what it asked for is saved. -/
structure Inv (w : Traveller κ side) : Prop where
  timeoutMsecs : (w.session notify).connectTimeoutMsecs = 0
  known : (w.session notify).isConnected = true → w.last.isSome = true
  aimed : (w.session notify).isConnected = true →
    ∀ target ∈ w.last, (w.session notify).Aimed target

section Invariant

variable {notify} {w : Traveller κ side}

/-- A call that ends with `connect`, on an object whose name of the master is that of the
call already. -/
theorem Inv.called (hsteady : (side.owner notify).Steady) {s : side.State κ} {t : Session}
    (hget : (side.owner notify).session.get s = t) (p : Session.ConnectParams) (accepted : Bool)
    (target : Target) (htimeout : t.connectTimeoutMsecs = 0)
    (hok : t.isConnected = false → accepted = true → (t.saveConnect p).Aimed target)
    (hknown : t.isConnected = true → w.last.isSome = true)
    (herror : t.isConnected = true → ∀ target ∈ w.last, (t.saveConnect p).Aimed target) :
    Inv notify (w.called target ((side.owner notify).connect p accepted s)) := by
  obtain ⟨s', hkept, ⟨⟨hclosed, haccepted⟩, hconnect, hc⟩ | ⟨hnot, ⟨what, hconnect⟩, hc⟩⟩ :=
    hsteady.connect_cases p accepted s
  · rw [hget] at hkept hclosed
    rw [hconnect]
    refine ⟨hkept.connectTimeoutMsecs.trans htimeout, fun _ => rfl, fun _ target' htarget => ?_⟩
    obtain rfl := Option.some.inj htarget
    exact (hok hclosed haccepted).kept hkept
  · rw [hget] at hkept hc
    rw [hconnect]
    refine ⟨hkept.connectTimeoutMsecs.trans htimeout, fun ho => hknown (hc.symm.trans ho),
      fun ho target htarget => ?_⟩
    exact (herror (hc.symm.trans ho) target htarget).kept hkept

theorem Inv.connect (hsteady : (side.owner notify).Steady) (h : Inv notify w)
    (p : Session.ConnectParams) (accepted : Bool) (hf : Faithful notify w (.connect p accepted)) :
    Inv notify (w.step notify (.connect p accepted)) := by
  unfold Faithful at hf
  dsimp only at hf
  unfold step
  rw [Side.connect_eq]
  refine Inv.called hsteady rfl p accepted _ h.timeoutMsecs (fun hclosed haccepted => ?_) h.known
    (fun ho target htarget => ?_)
  · change (w.session notify).isConnected = false at hclosed
    rw [hclosed, if_neg Bool.false_ne_true] at hf
    obtain ⟨hname, hp⟩ := hf haccepted
    exact ⟨⟨hname, rfl, rfl⟩, h.timeoutMsecs.trans hp.symm, rfl, rfl⟩
  · change (w.session notify).isConnected = true at ho
    rw [ho, if_pos rfl] at hf
    exact (h.aimed ho target htarget).saveConnect hf.1 hf.2.1 hf.2.2

/-- A lookup without an address on an object that is connected to a master. -/
theorem Inv.unresolved (h : Inv notify w) {s : side.State κ} {host : Bytes} {port : Nat} {name : Bytes}
    (hget : (side.owner notify).session.get s =
      { w.session notify with masterName := name, redisServer := host, redisPort := port })
    (hname : (w.session notify).isConnected = true → name = (w.session notify).masterName ∧ name ≠ []) :
    Inv notify { w with state := s } := by
  have hsession : session notify { w with state := s } =
      { w.session notify with masterName := name, redisServer := host, redisPort := port } := hget
  refine ⟨?_, fun ho => ?_, fun ho target htarget => ?_⟩
  · rw [hsession]
    exact h.timeoutMsecs
  · rw [hsession] at ho
    exact h.known ho
  · rw [hsession] at ho ⊢
    obtain ⟨rfl, hsome⟩ := hname ho
    exact (h.aimed ho target htarget).readdressed hsome host port

theorem Inv.connectByName (hsteady : (side.owner notify).Steady) (h : Inv notify w) (name : Bytes)
    (p : Session.ConnectParams) (lookup : Lookup) (accepted : Bool)
    (hf : Faithful notify w (.connectByName name p lookup accepted)) :
    Inv notify (w.step notify (.connectByName name p lookup accepted)) := by
  unfold Faithful at hf
  dsimp only at hf
  show Inv notify (w.called _ (side.connectByName notify name p lookup accepted w.state))
  obtain ⟨what, heq⟩ : ∃ what, side.connectByName notify name =
      (side.owner notify).connectByName what name := Side.connectByName_eq name
  rw [heq]
  unfold Owner.connectByName
  rw [modify_bind]
  generalize hs₁ : (side.owner notify).session.update (fun s => { s with masterName := name })
    w.state = s₁
  have hget : (side.owner notify).session.get s₁ = { w.session notify with masterName := name } := by
    rw [← hs₁]
    exact Owner.get_update _ _
  have hsome (hresolved : (w.session notify).resolved lookup = none)
      (ho : (w.session notify).isConnected = true) :
      name = (w.session notify).masterName ∧ name ≠ [] := by
    rw [ho, if_pos rfl, hresolved] at hf
    exact ⟨hf.1, fun hempty => absurd (hf.2.1 hempty).symm (Option.some_ne_none _)⟩
  rcases Session.getMasterAddrByName_cases lookup { w.session notify with masterName := name } with
    ⟨host, port, hresolved, hlookup⟩ | ⟨hresolved, host, port, hlookup | ⟨e, hlookup⟩⟩
  · change (w.session notify).resolved lookup = some (host, port) at hresolved
    rw [hresolved] at hf
    rw [← hget] at hlookup
    rw [bind_ok ((side.owner notify).session.zoom_ok hlookup), if_pos rfl, get_bind, hget]
    generalize hs₂ : (side.owner notify).session.set _ s₁ = s₂
    have hget₂ : (side.owner notify).session.get s₂ =
        { w.session notify with masterName := name, redisServer := host, redisPort := port } := by
      rw [← hs₂]
      exact (side.owner notify).session.get_set _ _
    rw [hget₂]
    refine Inv.called hsteady hget₂ { p with host := host, port := port } accepted _ h.timeoutMsecs
      (fun hclosed haccepted => ?_) h.known (fun ho target htarget => ?_)
    · change (w.session notify).isConnected = false at hclosed
      rw [hclosed, if_neg Bool.false_ne_true] at hf
      obtain ⟨hsome, hp⟩ := hf rfl haccepted
      exact ⟨⟨hsome, rfl⟩, h.timeoutMsecs.trans hp.symm, rfl, rfl⟩
    · change (w.session notify).isConnected = true at ho
      rw [ho, if_pos rfl] at hf
      obtain ⟨rfl, haddress, hlimits⟩ := hf
      obtain ⟨hmax, hinterval⟩ := hlimits rfl
      refine (h.aimed ho target htarget).saveConnect (p := { p with host := host, port := port })
        (fun hempty => ?_) hmax hinterval
      have hsaved := Option.some.inj (haddress hempty)
      exact ⟨congrArg Prod.fst hsaved, congrArg Prod.snd hsaved⟩
  · rw [← hget] at hlookup
    rw [bind_ok ((side.owner notify).session.zoom_ok hlookup), if_neg Bool.false_ne_true, hget]
    exact h.unresolved ((side.owner notify).session.get_set _ _) (hsome hresolved)
  · rw [← hget] at hlookup
    rw [bind_error ((side.owner notify).session.zoom_error hlookup), hget]
    exact h.unresolved ((side.owner notify).session.get_set _ _) (hsome hresolved)

theorem Inv.disconnect (h : Inv notify w) : Inv notify (w.step notify .disconnect) := by
  have hsession : (w.step notify .disconnect).session notify =
      { w.session notify with client := (w.session notify).client.disconnect } :=
    Side.get_disconnect w.state
  have hclosed : ((w.step notify .disconnect).session notify).isConnected = false := by
    rw [hsession]
    rfl
  refine ⟨?_, fun ho => ?_, fun ho => ?_⟩
  · rw [hsession]
    exact h.timeoutMsecs
  · exact Bool.noConfusion (hclosed.symm.trans ho)
  · exact Bool.noConfusion (hclosed.symm.trans ho)

theorem Inv.drop (hsteady : (side.owner notify).Steady) (h : Inv notify w) (attempts : List Attempt)
    (ho : (w.session notify).isConnected = true) :
    Inv notify (w.step notify (.drop attempts)) := by
  obtain ⟨target, htarget⟩ := Option.isSome_iff_exists.mp (h.known ho)
  have hbefore := h.aimed ho target htarget
  obtain ⟨haimed, -⟩ := hsteady.drop_returned attempts hbefore
  have hsession : ((w.step notify (.drop attempts)).session notify).Aimed target := by
    show Session.Aimed ((side.owner notify).session.get (after (side.drop notify attempts) w.state)) _
    rw [Side.drop_eq]
    exact haimed
  refine ⟨hsession.timeoutMsecs.trans (hbefore.timeoutMsecs.symm.trans h.timeoutMsecs),
    fun _ => h.known ho, fun _ target' htarget' => ?_⟩
  obtain rfl := Option.some.inj (htarget.symm.trans htarget')
  exact hsession

theorem Inv.step (hsteady : (side.owner notify).Steady) (h : Inv notify w) (e : Event)
    (he : Enabled notify w e) (hf : Faithful notify w e) : Inv notify (w.step notify e) := by
  cases e with
  | connect p accepted => exact h.connect hsteady p accepted hf
  | connectByName name p lookup accepted => exact h.connectByName hsteady name p lookup accepted hf
  | disconnect => exact h.disconnect
  | drop attempts => exact h.drop hsteady attempts he.1

end Invariant

/-- One that was made and not used yet. -/
def start (side : Side) (sentinel : Sentinel) (what : String) : Traveller κ side where
  state := side.new sentinel what

theorem Inv.start (sentinel : Sentinel) (what : String) :
    Inv notify (start side sentinel what) := by
  have hclosed : ((Traveller.start side sentinel what).session notify).isConnected = false := by
    cases side <;> rfl
  refine ⟨?_, fun ho => ?_, fun ho => ?_⟩
  · cases side <;> rfl
  · exact Bool.noConfusion (hclosed.symm.trans ho)
  · exact Bool.noConfusion (hclosed.symm.trans ho)

/-- If the connection is lost now, the reconnection goes back to where the last call of
`connect` that succeeded went, however far it has got. -/
def Returns (w : Traveller κ side) : Prop :=
  (w.session notify).isConnected = true →
    ∃ target ∈ w.last, ∀ attempts, Owner.Returned target attempts (w.session notify)
      ((side.owner notify).session.get (after (side.drop notify attempts) w.state))

variable {notify} in
theorem Inv.returns {w : Traveller κ side} (hsteady : (side.owner notify).Steady)
    (h : Inv notify w) : Returns notify w := by
  intro ho
  obtain ⟨target, htarget⟩ := Option.isSome_iff_exists.mp (h.known ho)
  refine ⟨target, htarget, fun attempts => ?_⟩
  rw [Side.drop_eq]
  exact hsteady.drop_returned attempts (h.aimed ho target htarget)

/-- In every run whose calls of `connect` are faithful, a reconnection goes back to where the
last call of `connect` that succeeded went. -/
theorem reconnection_aimed (side : Side) (notify : Notification → EStateM Fault (side.State κ) Unit)
    (hnotify : (side.owner notify).Discreet) (sentinel : Sentinel) (what : String)
    (events : List Event) (h : (machine notify).Possible (start side sentinel what) events)
    (hfaithful : (machine notify).Along (Faithful notify) (start side sentinel what) events) :
    (machine notify).Always (Returns notify) (start side sentinel what) events :=
  h.always_of_along (fun _ hw => hw.returns (Side.steady hnotify))
    (fun _ e hw he hf => hw.step (Side.steady hnotify) e he hf) hfaithful
    (Inv.start notify sentinel what)

/-- A connection by address whose reconnection is accepted the second time, and one to a
master, with a call on it that fails and a reconnection that finds another address. -/
def faithfulEvents : List Event :=
  [.connect ⟨ascii "a", 6379, false, 0, 2, 0⟩ true,
    .drop [{ accepted := false }, { accepted := true }], .disconnect,
    .connectByName (ascii "m") ⟨[], 0, false, 0, -1, 10⟩ (.found (ascii "b") 6380) true,
    .connectByName (ascii "m") ⟨[], 0, false, 7, 0, 0⟩ .notFound true,
    .drop [{ lookup := .notFound, accepted := true },
      { lookup := .found (ascii "c") 6381, accepted := true }]]

theorem reconnection_aimed_faithful :
    let sentinel : Sentinel := { sentinels := [⟨ascii "s", 26379, 0⟩] }
    (machine fun _ => pure ()).Always (Returns fun _ => pure ())
        (start .client sentinel "refused" : Traveller Unit .client) faithfulEvents ∧
      (machine fun _ => pure ()).Always (Returns fun _ => pure ())
        (start .subscriber sentinel "refused" : Traveller Unit .subscriber) faithfulEvents :=
  ⟨reconnection_aimed .client (fun _ => pure ()) (fun _ s => ⟨s, rfl, .refl _, rfl⟩) _ _ _
      (by decide +kernel) (by decide +kernel),
    reconnection_aimed .subscriber (fun _ => pure ()) (fun _ s => ⟨s, rfl, .refl _, rfl⟩) _ _ _
      (by decide +kernel) (by decide +kernel)⟩

/-- The user allows five milliseconds; the reconnection dials without a timeout. -/
theorem not_reconnection_aimed :
    ¬ ∀ (side : Side) (notify : Notification → EStateM Fault (side.State Unit) Unit),
      (side.owner notify).Discreet → ∀ (sentinel : Sentinel) (what : String) (events : List Event),
      (machine notify).Possible (start side sentinel what) events →
        (machine notify).Always (Returns notify) (start side sentinel what) events := by
  intro hall
  have halways := hall .client (fun _ => pure ()) (fun _ s => ⟨s, rfl, .refl _, rfl⟩) {} ""
    [.connect ⟨ascii "h", 6379, false, 5, 1, 0⟩ true] (by decide)
  obtain ⟨target, htarget, hreturned⟩ := halways.2 rfl
  obtain rfl := Option.some.inj htarget
  obtain ⟨-, n, -, hdialled⟩ := hreturned [{ accepted := true }]
  cases n with
  | zero => exact absurd hdialled (by decide)
  | succ n =>
    rw [List.take_of_length_le (Nat.succ_le_succ (Nat.zero_le n))] at hdialled
    exact absurd hdialled (by decide)

end Traveller

end Sides

end CppRedis
