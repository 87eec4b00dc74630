import CppRedis.Flag
import CppRedis.Lib.Locks

/-!
# Callbacks and mutexes

The class `client` has one mutex, `subscriber` two. This module runs their functions on a
`Guarded` object, which records what is held of these when a callback of the user is called.

* `Owner.guarded` is the owner of a session with its mutexes, and
  `lockingDisconnectionHandler` its handler, which keeps them locked from the end of the
  notification `dropped` to its own. But for the mutexes it is the handler
  (`lockingDisconnectionHandler_erases`).
* `Session.Tells` says whether the handler tells the connect callback anything while it
  holds them. A handler that does not is harmless (`lockingDisconnectionHandler_clear`).
-/

namespace CppRedis

open Text Procedure

/-- The mutexes of a client and of a subscriber. -/
inductive Mutex
  | callbacks
  | subscribedChannels
  | psubscribedChannels
deriving DecidableEq, Repr

namespace Owner

variable {σ : Type}

/-- The owner, with its mutexes. `resume` and `giveUp` lock none and call nobody back. -/
def guarded (o : Owner σ) (notify : Notification → EStateM Fault (Guarded Mutex σ) Unit) :
    Owner (Guarded Mutex σ) where
  session := Guarded.inner.comp o.session
  notify n := Guarded.callback (notify n)
  resume := Guarded.inner.zoom o.resume
  giveUp := Guarded.inner.zoom o.giveUp

/-- `connection_disconnection_handler`. The mutexes are locked once the other threads have
had their turn, and unlocked where it ends. -/
def lockingDisconnectionHandler (o : Owner (Guarded Mutex σ)) (mutexes : List Mutex)
    (others : Guarded Mutex σ → Guarded Mutex σ) (attempts : List Attempt) :
    EStateM Fault (Guarded Mutex σ) Bool :=
  Guarded.scope (o.connectionDisconnectionHandler (fun g => (others g).lockAll mutexes) attempts)

/-- The session is that of the object. -/
theorem guarded_get {o : Owner σ} {notify : Notification → EStateM Fault (Guarded Mutex σ) Unit}
    (g : Guarded Mutex σ) : (o.guarded notify).session.get g = o.session.get g.object :=
  rfl

theorem guarded_countAttempt {o : Owner σ}
    {notify : Notification → EStateM Fault (Guarded Mutex σ) Unit} (g : Guarded Mutex σ) :
    (o.guarded notify).session.get ((o.guarded notify).session.update Session.countAttempt g) =
      (o.session.get g.object).countAttempt :=
  (o.guarded notify).session.get_set _ _

/-! ## The owner alone -/

section Erases

open Guarded (Erases)

variable {o : Owner σ} {notify : Notification → EStateM Fault (Guarded Mutex σ) Unit}
  (h : ∀ n, Erases (notify n) (o.notify n))
include h

theorem callConnectCallback_erases (host : Bytes) (port : Nat) (state : ConnectState) :
    Erases ((o.guarded notify).callConnectCallback host port state)
      (o.callConnectCallback host port state) := by
  unfold callConnectCallback
  refine .get_bind fun g => .ite ?_ (.pure _)
  exact .bind (.modify fun _ => rfl) fun _ => .callback (h _)

theorem notifyState_erases (state : ConnectState) :
    Erases ((o.guarded notify).notifyState state) (o.notifyState state) :=
  .get_bind fun _ => callConnectCallback_erases h _ _ _

theorem connect_erases (p : Session.ConnectParams) (accepted : Bool) :
    Erases ((o.guarded notify).connect p accepted) (o.connect p accepted) := by
  unfold Owner.connect
  refine .bind (.modify fun _ => rfl) fun _ => ?_
  refine .bind (callConnectCallback_erases h _ _ _) fun _ => ?_
  exact .bind (.zoom _ _) fun _ => notifyState_erases h _

theorem sleepBeforeNextReconnectAttempt_erases :
    Erases (o.guarded notify).sleepBeforeNextReconnectAttempt o.sleepBeforeNextReconnectAttempt :=
  .get_bind fun _ => .ite (.pure _) (notifyState_erases h _)

omit h in
theorem findMaster_erases (lookup : Lookup) :
    Erases ((o.guarded notify).findMaster lookup) (o.findMaster lookup) :=
  .get_bind fun _ => .ite (.pure _) (.zoom _ _)

theorem tryConnect_erases (accepted : Bool) :
    Erases ((o.guarded notify).tryConnect accepted) (o.tryConnect accepted) :=
  .get_bind fun _ => .tryCatch (connect_erases h _ _) fun _ => .ite (.pure _) (.throw _)

theorem reconnect_erases (a : Attempt) :
    Erases ((o.guarded notify).reconnect a) (o.reconnect a) := by
  unfold Owner.reconnect
  refine .bind (.modify fun _ => rfl) fun _ => ?_
  refine .bind (findMaster_erases _) fun found => .ite ?_ (notifyState_erases h _)
  refine .bind (tryConnect_erases h _) fun _ => ?_
  refine .get_bind fun g => .ite ?_ (notifyState_erases h _)
  refine .bind (notifyState_erases h _) fun _ => ?_
  exact .ite (.bind (.modify fun _ => rfl) fun _ => .inner_zoom _) (.inner_zoom _)

/-- By induction on the attempts. -/
theorem reconnectLoop_erases (attempts : List Attempt) :
    Erases ((o.guarded notify).reconnectLoop attempts) (o.reconnectLoop attempts) := by
  induction attempts with
  | nil => exact .get_bind fun _ => .pure _
  | cons a attempts ih =>
    unfold Owner.reconnectLoop
    refine .get_bind fun g => .ite ?_ (.pure _)
    refine .bind (sleepBeforeNextReconnectAttempt_erases h) fun _ => ?_
    exact .bind (reconnect_erases h a) fun _ => ih

/-- But for the mutexes, the handler is the one of the owner. -/
theorem lockingDisconnectionHandler_erases (mutexes : List Mutex)
    {others : Guarded Mutex σ → Guarded Mutex σ} {others' : σ → σ}
    (hothers : ∀ g, (others g).object = others' g.object) (attempts : List Attempt) :
    Erases ((o.guarded notify).lockingDisconnectionHandler mutexes others attempts)
      (o.connectionDisconnectionHandler others' attempts) := by
  unfold lockingDisconnectionHandler Owner.connectionDisconnectionHandler Owner.finishReconnection
  refine .scope (.get_bind fun g => .ite (.pure _) ?_)
  refine .bind (.modify fun _ => rfl) fun _ => .bind (notifyState_erases h _) fun _ => ?_
  refine .bind (.modify fun g => (Guarded.lockAll_object _ _).trans (hothers g)) fun _ => ?_
  refine .bind (reconnectLoop_erases h attempts) fun left => .ite ?_ (.pure _)
  refine .bind (.get_bind fun g => .ite ?_ (.modify fun _ => rfl)) fun _ => .pure _
  exact .bind (.inner_zoom _) fun _ => .bind (notifyState_erases h _) fun _ => .modify fun _ => rfl

end Erases

/-! ## A callback that is not set -/

/-- The lookup touches the address of the server only. -/
theorem after_findMaster (o : Owner σ) (lookup : Lookup) (s : σ) :
    ∃ host port, after (o.findMaster lookup) s =
      o.session.set { o.session.get s with redisServer := host, redisPort := port } s := by
  unfold findMaster
  rw [after_get_bind]
  split
  · exact ⟨_, _, (o.session.set_get s).symm⟩
  · obtain ⟨host, port, hafter⟩ := Session.after_getMasterAddrByName lookup (o.session.get s)
    exact ⟨host, port, by rw [o.session.after_zoom, hafter]⟩

/-- `I` knows that the connect callback is not set, and is kept by whatever leaves it so. -/
structure Untold (o : Owner σ) (I : σ → Prop) : Prop where
  unset : ∀ {s}, I s → (o.session.get s).connectCallback = false
  session : ∀ {s t}, I s → t.connectCallback = false → I (o.session.set t s)
  resume : Follows (Keeping I) o.resume
  giveUp : Follows (Keeping I) o.giveUp

namespace Untold

variable {o : Owner σ} {I : σ → Prop} (h : Untold o I)
include h

/-- A change of the session that leaves the callback as it is. -/
theorem update {f : Session → Session}
    (hf : ∀ t : Session, t.connectCallback = false → (f t).connectCallback = false) :
    ∀ s, Keeping I s (o.session.update f s) :=
  fun _ hs => h.session hs (hf _ (h.unset hs))

theorem callConnectCallback_follows (host : Bytes) (port : Nat) (state : ConnectState) :
    Follows (Keeping I) (o.callConnectCallback host port state) := by
  refine .of_keeping fun s hs => ?_
  unfold callConnectCallback
  rw [after_get_bind, h.unset hs, if_neg Bool.false_ne_true]
  exact hs

theorem notifyState_follows (state : ConnectState) : Follows (Keeping I) (o.notifyState state) :=
  .bind .get fun _ => h.callConnectCallback_follows _ _ _

theorem connect_follows {p : Session.ConnectParams} (hp : p.connectCallback = false)
    (accepted : Bool) : Follows (Keeping I) (o.connect p accepted) := by
  unfold Owner.connect
  refine .bind (.modify (h.update fun _ _ => hp)) fun _ => ?_
  refine .bind (h.callConnectCallback_follows _ _ _) fun _ => ?_
  refine .bind (.zoom fun s hs => h.session hs ?_) fun _ => h.notifyState_follows _
  rw [Lens.after_zoom]
  exact h.unset hs

theorem findMaster_follows (lookup : Lookup) : Follows (Keeping I) (o.findMaster lookup) := by
  refine .of_keeping fun s hs => ?_
  obtain ⟨host, port, hafter⟩ := o.after_findMaster lookup s
  rw [hafter]
  exact h.session hs (h.unset hs)

theorem tryConnect_follows (accepted : Bool) : Follows (Keeping I) (o.tryConnect accepted) := by
  refine .of_keeping fun s hs => ?_
  unfold Owner.tryConnect
  rw [after_get_bind]
  have hconnect := h.connect_follows (p := (o.session.get s).reconnectParams) (h.unset hs) accepted
  exact (Follows.tryCatch hconnect fun e => .ite (.pure _) (.throw _)).keeping hs

theorem reconnect_follows (a : Attempt) : Follows (Keeping I) (o.reconnect a) := by
  unfold Owner.reconnect
  refine .bind (.modify (h.update fun _ ht => ht)) fun _ => ?_
  refine .bind (h.findMaster_follows _) fun found => .ite ?_ (h.notifyState_follows _)
  refine .bind (h.tryConnect_follows _) fun _ => ?_
  refine .bind .get fun s => .ite ?_ (h.notifyState_follows _)
  refine .bind (h.notifyState_follows _) fun _ => ?_
  exact .ite (.bind (.modify (h.update fun _ ht => ht)) fun _ => h.resume) h.resume

theorem reconnectLoop_follows (attempts : List Attempt) :
    Follows (Keeping I) (o.reconnectLoop attempts) := by
  induction attempts with
  | nil => exact .bind .get fun _ => .pure _
  | cons a attempts ih =>
    unfold Owner.reconnectLoop
    refine .bind .get fun s => .ite ?_ (.pure _)
    refine .bind (.bind .get fun _ => .ite (.pure _) (h.notifyState_follows _)) fun _ => ?_
    exact .bind (h.reconnect_follows a) fun _ => ih

theorem finishReconnection_follows : Follows (Keeping I) o.finishReconnection := by
  have hend : Follows (Keeping I)
      (modify (o.session.update Session.endReconnection) : EStateM Fault σ Unit) :=
    .modify (h.update fun _ ht => ht)
  refine .bind .get fun _ => .ite ?_ hend
  exact .bind h.giveUp fun _ => .bind (h.notifyState_follows _) fun _ => hend

end Untold

end Owner

/-! ## What the handler tells -/

namespace Session

/-- Whether the handler, which has taken its locks, tells the connect callback anything: the
callback is set, the connection was not opened again in the meantime, and there is no
attempt that throws before the callback is told of it. -/
def Tells (t : Session) (attempts : List Attempt) : Prop :=
  t.connectCallback = true ∧ t.isConnected = false ∧
    (t.shouldReconnect = true →
      ∃ a ∈ attempts.head?, 0 < t.reconnectIntervalMsecs ∨ t.LookupReturns a.lookup)

/-- A handler that tells nothing: there is nobody to tell, nothing to do, or an attempt that
throws at once. -/
theorem not_tells {t : Session} {attempts : List Attempt} (h : ¬ t.Tells attempts) :
    t.connectCallback = false ∨ t.isConnected = true ∨ t.shouldReconnect = true ∧
      ∀ a ∈ attempts.head?, t.reconnectIntervalMsecs ≤ 0 ∧ ¬ t.LookupReturns a.lookup := by
  cases hset : t.connectCallback with
  | false => exact .inl rfl
  | true =>
    cases hconnected : t.isConnected with
    | true => exact .inr (.inl rfl)
    | false =>
      by_contra hnot
      refine h ⟨hset, hconnected, fun hshould => ?_⟩
      by_contra hnone
      refine hnot (.inr (.inr ⟨hshould, fun a ha => ?_⟩))
      have hsilent := not_or.mp fun htell => hnone ⟨a, ha, htell⟩
      exact ⟨Nat.le_of_not_lt hsilent.1, hsilent.2⟩

end Session

namespace Owner

variable {σ : Type}

/-- Neither `resume` nor `giveUp` sets the connect callback or takes it away. -/
structure KeepsCallback (o : Owner σ) : Prop where
  resume : ∀ s, (o.session.get (after o.resume s)).connectCallback = (o.session.get s).connectCallback
  giveUp : ∀ s, (o.session.get (after o.giveUp s)).connectCallback = (o.session.get s).connectCallback

/-- What `connection_disconnection_handler` does behind its locks. -/
def lockedPart (o : Owner σ) (attempts : List Attempt) : EStateM Fault σ Bool := do
  if ← o.reconnectLoop attempts then
    o.finishReconnection
    pure true
  else
    pure false

variable {o : Owner σ} {notify : Notification → EStateM Fault (Guarded Mutex σ) Unit}

/-- With the callback not set, no foreign code is called. -/
theorem KeepsCallback.untold (h : KeepsCallback o) : Untold (o.guarded notify) fun g =>
    g.Unlocked ∧ (o.session.get g.object).connectCallback = false where
  unset hg := hg.2
  session hg ht := ⟨hg.1.set _, (congrArg Session.connectCallback (o.session.get_set _ _)).trans ht⟩
  resume := by
    refine .of_keeping fun g hg => ?_
    rw [show after (o.guarded notify).resume g = Guarded.inner.set (after o.resume g.object) g from
      Guarded.inner.after_zoom _ _]
    exact ⟨hg.1.set _, (h.resume g.object).trans hg.2⟩
  giveUp := by
    refine .of_keeping fun g hg => ?_
    rw [show after (o.guarded notify).giveUp g = Guarded.inner.set (after o.giveUp g.object) g from
      Guarded.inner.after_zoom _ _]
    exact ⟨hg.1.set _, (h.giveUp g.object).trans hg.2⟩

/-- With no interval between two attempts nothing is told. -/
theorem sleepBeforeNextReconnectAttempt_none {o : Owner σ} {s : σ}
    (h : (o.session.get s).reconnectIntervalMsecs ≤ 0) :
    o.sleepBeforeNextReconnectAttempt s = .ok () s := by
  unfold sleepBeforeNextReconnectAttempt
  rw [get_bind, if_pos h]
  rfl

/-- An attempt whose lookup throws calls nobody. -/
theorem reconnect_throws (notify : Notification → EStateM Fault (Guarded Mutex σ) Unit)
    {a : Attempt} {g : Guarded Mutex σ} (hg : g.Unlocked)
    (hthrows : ¬ (o.session.get g.object).LookupReturns a.lookup) :
    ∃ e g', (o.guarded notify).reconnect a g = .error e g' ∧ Guarded.Unlocked g' := by
  have hcounted : ¬ Returns ((o.guarded notify).findMaster a.lookup)
      ((o.guarded notify).session.update Session.countAttempt g) := by
    rw [findMaster_returns, guarded_countAttempt]
    exact hthrows
  have hkept : Follows (Keeping Guarded.Unlocked) ((o.guarded notify).findMaster a.lookup) :=
    .bind .get fun _ => .ite (.pure _) (.zoom fun _ hg => hg.set _)
  have hfound := hkept.keeping
    (s := (o.guarded notify).session.update Session.countAttempt g) (hg.set _)
  cases hfind : (o.guarded notify).findMaster a.lookup
      ((o.guarded notify).session.update Session.countAttempt g) with
  | ok found g' => exact absurd ⟨found, g', hfind⟩ hcounted
  | error e g' =>
    rw [after_error hfind] at hfound
    refine ⟨e, g', ?_, hfound⟩
    unfold reconnect
    rw [modify_bind]
    exact bind_error hfind _

/-- A handler that tells nothing behind its locks calls nobody there. -/
theorem lockedPart_unlocked (ho : KeepsCallback o) {attempts : List Attempt} {g : Guarded Mutex σ}
    (hg : g.Unlocked) (htells : ¬ (o.session.get g.object).Tells attempts) :
    Guarded.Unlocked (after ((o.guarded notify).lockedPart attempts) g) := by
  rcases Session.not_tells htells with hunset | hconnected | ⟨hshould, hsilent⟩
  · have huntold : Untold (o.guarded notify) _ := ho.untold
    have hfollows : Follows _ ((o.guarded notify).lockedPart attempts) :=
      .bind (huntold.reconnectLoop_follows attempts) fun _ =>
        .ite (.bind huntold.finishReconnection_follows fun _ => .pure _) (.pure _)
    exact (hfollows.keeping ⟨hg, hunset⟩).1
  · have hloop : (o.guarded notify).reconnectLoop attempts g = .ok true g :=
      reconnectLoop_connected attempts hconnected
    have hfinish : (o.guarded notify).finishReconnection g =
        .ok () ((o.guarded notify).session.update Session.endReconnection g) := by
      unfold finishReconnection
      rw [get_bind, guarded_get, hconnected]
      rfl
    unfold lockedPart
    rw [after_bind_ok hloop, if_pos rfl, after_bind_ok hfinish]
    exact hg.set _
  · cases attempts with
    | nil =>
      have hloop : (o.guarded notify).reconnectLoop [] g = .ok false g := by
        unfold reconnectLoop
        rw [get_bind, guarded_get, hshould]
        rfl
      unfold lockedPart
      rw [after_bind_ok hloop]
      exact hg
    | cons a attempts =>
      obtain ⟨hinterval, hthrows⟩ := hsilent a rfl
      have hsleep : (o.guarded notify).sleepBeforeNextReconnectAttempt g = .ok () g :=
        sleepBeforeNextReconnectAttempt_none hinterval
      obtain ⟨e, g', hreconnect, hg'⟩ := reconnect_throws notify hg hthrows
      have hloop : (o.guarded notify).reconnectLoop (a :: attempts) g = .error e g' := by
        unfold reconnectLoop
        rw [get_bind, guarded_get, if_pos hshould, bind_ok hsleep]
        exact bind_error hreconnect _
      unfold lockedPart
      rw [after_bind_error hloop]
      exact hg'

/-- The session in which the handler takes its locks. -/
def atLocks (o : Owner (Guarded Mutex σ)) (others : Guarded Mutex σ → Guarded Mutex σ)
    (g : Guarded Mutex σ) : Session :=
  o.session.get (others (after (o.notifyState .dropped)
    (o.session.update Session.beginReconnection g)))

/-- A handler that leaves at once, that is left by an exception of the connect callback before
it takes its locks, or that tells nothing behind them. -/
def Harmless (o : Owner (Guarded Mutex σ)) (others : Guarded Mutex σ → Guarded Mutex σ)
    (attempts : List Attempt) (g : Guarded Mutex σ) : Prop :=
  (o.session.get g).reconnecting = true ∨
    ¬ Returns (o.notifyState .dropped) (o.session.update Session.beginReconnection g) ∨
    ¬ (o.atLocks others g).Tells attempts

/-- A harmless handler calls nobody under its mutexes and gives them back. -/
theorem lockingDisconnectionHandler_clear (ho : KeepsCallback o)
    (hnotify : ∀ n, Follows (Keeping Guarded.Clear) (notify n)) {mutexes : List Mutex}
    (hmutexes : mutexes.Nodup) {others : Guarded Mutex σ → Guarded Mutex σ}
    (hothers : ∀ g : Guarded Mutex σ, g.Clear → (others g).Clear) {attempts : List Attempt}
    {g : Guarded Mutex σ} (hg : g.Clear) (h : (o.guarded notify).Harmless others attempts g) :
    Guarded.Clear (after ((o.guarded notify).lockingDisconnectionHandler mutexes others attempts) g) := by
  refine hg.scope ?_
  unfold Owner.connectionDisconnectionHandler
  rw [after_get_bind]
  split
  · exact hg.toUnlocked
  · next hidle =>
    have hdropped : Guarded.Clear (after ((o.guarded notify).notifyState .dropped)
        ((o.guarded notify).session.update Session.beginReconnection g)) := by
      have hcalls : Calls (o.guarded notify) (Keeping Guarded.Clear) :=
        ⟨fun _ _ _ hg => hg.set _, fun n => Guarded.Clear.callback (hnotify n)⟩
      exact (hcalls.notifyState_follows .dropped).keeping (hg.set _)
    rw [after_modify_bind]
    cases htold : (o.guarded notify).notifyState .dropped
        ((o.guarded notify).session.update Session.beginReconnection g) with
    | error e g₁ =>
      rw [after_bind_error htold]
      rw [after_error htold] at hdropped
      exact hdropped.toUnlocked
    | ok u g₁ =>
      have htells := (h.resolve_left hidle).resolve_left (not_not.mpr ⟨u, g₁, htold⟩)
      rw [after_bind_ok htold, after_modify_bind]
      rw [after_ok htold] at hdropped
      have hclear := hothers g₁ hdropped
      refine lockedPart_unlocked ho ?_ ?_
      · refine hclear.toUnlocked.lockAll hmutexes fun m _ => ?_
        rw [hclear.held]
        exact List.not_mem_nil
      · rw [Guarded.lockAll_object]
        unfold atLocks at htells
        rw [after_ok htold] at htells
        exact htells

/-! ## A handler that does tell -/

section Spoiled

variable (hnotify : ∀ n, Follows (Keeping Guarded.Spoiled) (notify n))
include hnotify

/-- Nothing that the reconnection does takes a call back. -/
theorem within_spoiled (o : Owner σ) : (o.guarded notify).Within (Keeping Guarded.Spoiled) where
  session _ _ _ hg := hg.set _
  notify n := Guarded.Spoiled.callback (hnotify n)
  countAttempt _ hg := hg.set _
  lose _ hg := hg.set _
  resume := .zoom fun _ hg => hg.set _
  giveUp := .zoom fun _ hg => hg.set _

variable {g : Guarded Mutex σ}

theorem callConnectCallback_spoiled (host : Bytes) (port : Nat) (state : ConnectState)
    (hset : (o.session.get g.object).connectCallback = true) (hheld : g.held ≠ []) :
    Guarded.Spoiled (after ((o.guarded notify).callConnectCallback host port state) g) := by
  unfold callConnectCallback
  rw [after_get_bind, guarded_get, hset, if_pos rfl, after_modify_bind]
  exact Guarded.callback_spoiled (hnotify _) hheld

theorem notifyState_spoiled (state : ConnectState)
    (hset : (o.session.get g.object).connectCallback = true) (hheld : g.held ≠ []) :
    Guarded.Spoiled (after ((o.guarded notify).notifyState state) g) := by
  unfold notifyState
  rw [after_get_bind]
  exact callConnectCallback_spoiled hnotify _ _ _ hset hheld

/-- An attempt to connect tells that it starts. -/
theorem tryConnect_spoiled (accepted : Bool)
    (hset : (o.session.get g.object).connectCallback = true) (hheld : g.held ≠ []) :
    Guarded.Spoiled (after ((o.guarded notify).tryConnect accepted) g) := by
  have hwithin := within_spoiled hnotify o
  unfold tryConnect
  rw [after_get_bind]
  refine Follows.keeping_catch ?_ fun e => .ite (.pure _) (.throw _)
  unfold Owner.connect
  rw [after_modify_bind]
  refine Follows.keeping_bind (callConnectCallback_spoiled hnotify _ _ _ ?_ hheld) fun _ => ?_
  · exact (congrArg Session.connectCallback (o.session.get_set _ _)).trans hset
  · exact .bind (.zoom fun _ hg => hg.set _) fun _ => hwithin.notifyState_follows _

/-- An attempt tells something, unless its lookup throws. -/
theorem reconnect_spoiled {a : Attempt} (hset : (o.session.get g.object).connectCallback = true)
    (hheld : g.held ≠ []) (hlookup : (o.session.get g.object).LookupReturns a.lookup) :
    Guarded.Spoiled (after ((o.guarded notify).reconnect a) g) := by
  have hwithin := within_spoiled hnotify o
  have hcounted : Returns ((o.guarded notify).findMaster a.lookup)
      ((o.guarded notify).session.update Session.countAttempt g) := by
    rw [findMaster_returns, guarded_countAttempt]
    exact hlookup
  obtain ⟨found, g₁, hfind⟩ := hcounted
  -- the lookup leaves the callback and what is held as they are
  obtain ⟨host, port, hafter⟩ := (o.guarded notify).after_findMaster a.lookup
    ((o.guarded notify).session.update Session.countAttempt g)
  rw [after_ok hfind, guarded_countAttempt] at hafter
  have hset₁ : (o.session.get g₁.object).connectCallback = true := by
    rw [hafter]
    exact (congrArg Session.connectCallback ((o.guarded notify).session.get_set _ _)).trans hset
  have hheld₁ : g₁.held ≠ [] := by
    rw [hafter]
    exact hheld
  unfold reconnect
  rw [after_modify_bind, after_bind_ok hfind]
  cases found with
  | false => exact notifyState_spoiled hnotify _ hset₁ hheld₁
  | true =>
    rw [if_pos rfl]
    refine Follows.keeping_bind (tryConnect_spoiled hnotify _ hset₁ hheld₁) fun _ => ?_
    refine .bind .get fun _ => .ite ?_ (hwithin.notifyState_follows _)
    refine .bind (hwithin.notifyState_follows _) fun _ => ?_
    exact .ite (.bind (.modify hwithin.lose) fun _ => hwithin.resume) hwithin.resume

/-- Where the connection is not open again, the callback is told that the handler stopped. -/
theorem finishReconnection_spoiled (ho : KeepsCallback o) (hgiveUp : ∀ s, Returns o.giveUp s)
    (hset : (o.session.get g.object).connectCallback = true)
    (hclosed : (o.session.get g.object).isConnected = false) (hheld : g.held ≠ []) :
    Guarded.Spoiled (after (o.guarded notify).finishReconnection g) := by
  obtain ⟨⟨⟩, s, hs⟩ := hgiveUp g.object
  have hstop : (o.guarded notify).giveUp g = .ok () (Guarded.inner.set s g) :=
    Guarded.inner.zoom_ok hs
  have hset' : (o.session.get s).connectCallback = true := by
    rw [← after_ok hs, ho.giveUp]
    exact hset
  unfold finishReconnection
  rw [after_get_bind, guarded_get, hclosed, Bool.not_false, if_pos rfl, after_bind_ok hstop]
  refine Follows.keeping_bind ?_ fun _ => .modify fun _ hg => hg.set _
  exact notifyState_spoiled hnotify (g := Guarded.inner.set s g) _ hset' hheld

/-- The first turn of the loop tells that it sleeps, or its attempt does tell something. -/
theorem reconnectLoop_spoiled {a : Attempt} (attempts : List Attempt)
    (hset : (o.session.get g.object).connectCallback = true) (hheld : g.held ≠ [])
    (hshould : (o.session.get g.object).shouldReconnect = true)
    (htell : 0 < (o.session.get g.object).reconnectIntervalMsecs ∨
      (o.session.get g.object).LookupReturns a.lookup) :
    Guarded.Spoiled (after ((o.guarded notify).reconnectLoop (a :: attempts)) g) := by
  have hwithin := within_spoiled hnotify o
  have hloop := hwithin.reconnectLoop_follows attempts
  unfold reconnectLoop
  rw [after_get_bind, guarded_get, hshould, if_pos rfl]
  by_cases hinterval : (o.session.get g.object).reconnectIntervalMsecs ≤ 0
  · have hsleep : (o.guarded notify).sleepBeforeNextReconnectAttempt g = .ok () g :=
      sleepBeforeNextReconnectAttempt_none hinterval
    have hlookup := htell.resolve_left (Nat.not_lt.mpr hinterval)
    rw [after_bind_ok hsleep]
    exact Follows.keeping_bind (reconnect_spoiled hnotify hset hheld hlookup) fun _ => hloop
  · refine Follows.keeping_bind ?_ fun _ => .bind (hwithin.reconnect_follows a) fun _ => hloop
    unfold sleepBeforeNextReconnectAttempt
    rw [after_get_bind, guarded_get, if_neg hinterval]
    exact notifyState_spoiled hnotify _ hset hheld

/-- A handler that tells something behind its locks calls the user under them. -/
theorem lockedPart_spoiled (ho : KeepsCallback o) (hgiveUp : ∀ s, Returns o.giveUp s)
    {attempts : List Attempt} (hheld : g.held ≠ [])
    (htells : (o.session.get g.object).Tells attempts) :
    Guarded.Spoiled (after ((o.guarded notify).lockedPart attempts) g) := by
  obtain ⟨hset, hclosed, hfirst⟩ := htells
  unfold lockedPart
  cases hshould : (o.session.get g.object).shouldReconnect with
  | false =>
    -- the loop is left at once
    have hloop : (o.guarded notify).reconnectLoop attempts g = .ok true g := by
      cases attempts <;>
      · unfold reconnectLoop
        rw [get_bind, guarded_get, hshould]
        rfl
    rw [after_bind_ok hloop, if_pos rfl]
    exact Follows.keeping_bind
      (finishReconnection_spoiled hnotify ho hgiveUp hset hclosed hheld) fun _ => .pure _
  | true =>
    obtain ⟨a, ha, htell⟩ := hfirst hshould
    have hwithin := within_spoiled hnotify o
    have hfinish : Follows (Keeping Guarded.Spoiled) (o.guarded notify).finishReconnection := by
      refine .bind .get fun _ => .ite ?_ (.modify fun _ hg => hg.set _)
      refine .bind hwithin.giveUp fun _ => .bind (hwithin.notifyState_follows _) fun _ => ?_
      exact .modify fun _ hg => hg.set _
    cases attempts with
    | nil => cases ha
    | cons a' attempts =>
      cases ha
      exact Follows.keeping_bind (reconnectLoop_spoiled hnotify attempts hset hheld hshould htell)
        fun _ => .ite (.bind hfinish fun _ => .pure _) (.pure _)

/-- A handler that calls nobody under its mutexes is harmless. -/
theorem harmless_of_unlocked (ho : KeepsCallback o) (hgiveUp : ∀ s, Returns o.giveUp s)
    {mutexes : List Mutex} (hmutexes : mutexes ≠ [])
    {others : Guarded Mutex σ → Guarded Mutex σ} {attempts : List Attempt}
    (h : Guarded.Unlocked (after ((o.guarded notify).lockingDisconnectionHandler mutexes others
      attempts) g)) : (o.guarded notify).Harmless others attempts g := by
  by_contra hharm
  obtain ⟨hidle, hharm⟩ := not_or.mp hharm
  obtain ⟨hreturns, htells⟩ := not_or.mp hharm
  obtain ⟨⟨⟩, g₁, htold⟩ := not_not.mp hreturns
  have htells := not_not.mp htells
  unfold atLocks at htells
  rw [after_ok htold] at htells
  refine Guarded.Spoiled.not_unlocked (.of_scope ?_) h
  unfold Owner.connectionDisconnectionHandler
  rw [after_get_bind, if_neg hidle, after_modify_bind, after_bind_ok htold, after_modify_bind]
  refine lockedPart_spoiled hnotify ho hgiveUp (Guarded.lockAll_held hmutexes _) ?_
  rw [Guarded.lockAll_object]
  exact htells

end Spoiled

end Owner

end CppRedis
