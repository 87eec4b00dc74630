import CppRedis.Calls
import CppRedis.Resend

/-!
# The reconnecting flag

`connection_disconnection_handler` sets `m_reconnecting` at its top and clears it
in its last line. A call in between that throws out of the handler leaves the
flag set: every later `commit` of the client is skipped and every later drop is
ignored. Only `connect` is called inside of a `try`.

`CallsReturn` is the condition on the calls that the handler makes, each in the
state in which it is made: the connect callback returns, a lookup finds a
sentinel to ask and can ask it, and the connection that `commit` writes to is
still open. It is exact for `client` and for `subscriber`
(`reconnecting_released_iff`).
-/

namespace CppRedis

open Text Procedure

/-! ## The calls of the handler -/

/-- The query of a sentinel can be sent. -/
def Lookup.isSent : Lookup → Bool
  | .throws _ => false
  | _ => true

/-- The reply to the query has the address of the master. -/
def Lookup.hasMaster : Lookup → Bool
  | .found _ port => port != 0
  | _ => false

namespace Session

/-- A lookup does not throw, or none is made. -/
def LookupReturns (lookup : Lookup) (s : Session) : Prop :=
  s.masterName.isEmpty = true ∨ (s.sentinel.sentinels.isEmpty = false ∧ lookup.isSent = true)

/-- A lookup that returns has found a master, or none is needed. -/
def findsMaster (lookup : Lookup) (s : Session) : Bool :=
  s.masterName.isEmpty || lookup.hasMaster

theorem getMasterAddrByName_returns (lookup : Lookup) (s : Session) :
    Returns (getMasterAddrByName lookup) s ↔
      s.sentinel.sentinels.isEmpty = false ∧ lookup.isSent = true := by
  unfold Returns getMasterAddrByName
  dsimp only
  cases hs : s.sentinel.sentinels.isEmpty <;> cases lookup <;> simp [Lookup.isSent]

theorem value_getMasterAddrByName {lookup : Lookup} {s : Session}
    (hs : s.sentinel.sentinels.isEmpty = false) (hl : lookup.isSent = true) :
    value (getMasterAddrByName lookup) s = some lookup.hasMaster := by
  unfold value getMasterAddrByName
  dsimp only
  rw [hs, if_neg Bool.false_ne_true]
  cases lookup with
  | found host port => rfl
  | notFound => rfl
  | throws what => cases hl

end Session

namespace Owner

variable {σ : Type} (o : Owner σ)

/-- The connect callback, where it is set, returns when it is told `state`. -/
def CallbackReturns (state : ConnectState) (s : σ) : Prop :=
  let t := o.session.get s
  t.connectCallback = true →
    Returns (o.notify ⟨t.redisServer, t.redisPort, state⟩)
      (o.session.update (·.record ⟨t.redisServer, t.redisPort, state⟩) s)

/-- The calls of `sleep_before_next_reconnect_attempt` return. -/
def SleepReturns (s : σ) : Prop :=
  0 < (o.session.get s).reconnectIntervalMsecs → o.CallbackReturns .sleeping s

/-- The calls of `reconnect` after a successful lookup return. Of `connect` it is
enough that `catch (...)` sees what it throws. Once it is connected, `commit`
returns if the connection is still open. -/
def ConnectReturns (a : Attempt) (s : σ) : Prop :=
  Returns (o.tryConnect a.accepted) s ∧
    let s := after (o.tryConnect a.accepted) s
    if (o.session.get s).isConnected then
      o.CallbackReturns .ok s ∧
        (o.session.get (after (o.notifyState .ok) s)).isConnected = true ∧ a.lost = false
    else
      o.CallbackReturns .failed s

/-- The calls of `reconnect` return. -/
def ReconnectReturns (a : Attempt) (s : σ) : Prop :=
  let s := o.session.update Session.countAttempt s
  (o.session.get s).LookupReturns a.lookup ∧
    if (o.session.get s).findsMaster a.lookup then
      o.ConnectReturns a (after (o.findMaster a.lookup) s)
    else
      o.CallbackReturns .lookupFailed (after (o.findMaster a.lookup) s)

/-- The calls of each turn of the loop return. -/
def LoopReturns : List Attempt → σ → Prop
  | [], _ => True
  | a :: attempts, s =>
    (o.session.get s).shouldReconnect = true →
      o.SleepReturns s ∧
        let s := after o.sleepBeforeNextReconnectAttempt s
        o.ReconnectReturns a s ∧ LoopReturns attempts (after (o.reconnect a) s)

/-- Every call that `connection_disconnection_handler` makes returns. -/
def CallsReturn (others : σ → σ) (attempts : List Attempt) (s : σ) : Prop :=
  let s := o.session.update Session.beginReconnection s
  o.CallbackReturns .dropped s ∧
    let s := others (after (o.notifyState .dropped) s)
    o.LoopReturns attempts s ∧
      let s := after (o.reconnectLoop attempts) s
      (o.session.get s).isConnected = false → o.CallbackReturns .stopped (after o.giveUp s)

/-- The handler is left within the attempts: it returns, or it throws. -/
def Leaves (others : σ → σ) (attempts : List Attempt) (s : σ) : Prop :=
  value (o.connectionDisconnectionHandler others attempts) s ≠ some false

instance (others : σ → σ) (attempts : List Attempt) (s : σ) :
    Decidable (o.Leaves others attempts s) :=
  inferInstanceAs (Decidable (_ ≠ _))

/-! ## What the parts of the handler return -/

/-- The flag is the same in both states. -/
def SameFlag (s t : σ) : Prop :=
  (o.session.get t).reconnecting = (o.session.get s).reconnecting

/-- What is used of a client or a subscriber: nothing but the handler writes the
flag, resuming throws if and only if the connection is closed, and giving up
does not throw. -/
structure KeepsFlag (o : Owner σ) : Prop extends Within o o.SameFlag where
  resume_returns : ∀ s, Returns o.resume s ↔ (o.session.get s).isConnected = true
  giveUp_returns : ∀ s, Returns o.giveUp s

variable {o}

theorem notifyState_returns (state : ConnectState) (s : σ) :
    Returns (o.notifyState state) s ↔ o.CallbackReturns state s := by
  unfold notifyState callConnectCallback CallbackReturns
  rw [returns_get, returns_get]
  cases hset : (o.session.get s).connectCallback with
  | true =>
    rw [if_pos rfl, returns_modify]
    exact ⟨fun h _ => h, fun h => h hset⟩
  | false =>
    rw [if_neg Bool.false_ne_true]
    refine ⟨fun _ h => ?_, fun _ => returns_pure _ _⟩
    exact absurd (hset.symm.trans h) Bool.false_ne_true

theorem sleepBeforeNextReconnectAttempt_returns (s : σ) :
    Returns o.sleepBeforeNextReconnectAttempt s ↔ o.SleepReturns s := by
  unfold sleepBeforeNextReconnectAttempt SleepReturns
  rw [returns_get]
  split
  · next h => exact ⟨fun _ h' => absurd h (Nat.not_le.mpr h'), fun _ => returns_pure _ _⟩
  · next h =>
    rw [notifyState_returns]
    exact ⟨fun hc _ => hc, fun hc => hc (Nat.not_le.mp h)⟩

theorem value_findMaster {lookup : Lookup} {s : σ}
    (h : (o.session.get s).LookupReturns lookup) :
    value (o.findMaster lookup) s = some ((o.session.get s).findsMaster lookup) := by
  unfold findMaster value
  rw [get_bind]
  unfold Session.findsMaster
  cases hname : (o.session.get s).masterName.isEmpty with
  | true =>
    rw [if_pos rfl]
    rfl
  | false =>
    rw [if_neg Bool.false_ne_true, Bool.false_or]
    obtain hname' | ⟨hs, hl⟩ := h
    · exact absurd (hname.symm.trans hname') Bool.false_ne_true
    · rw [o.session.zoom_ok (eq_ok_of_value (Session.value_getMasterAddrByName hs hl))]

theorem findMaster_returns (lookup : Lookup) (s : σ) :
    Returns (o.findMaster lookup) s ↔ (o.session.get s).LookupReturns lookup := by
  constructor
  · intro h
    unfold findMaster at h
    rw [returns_get] at h
    cases hname : (o.session.get s).masterName.isEmpty with
    | true => exact .inl hname
    | false =>
      rw [hname, if_neg Bool.false_ne_true] at h
      exact .inr ((Session.getMasterAddrByName_returns _ _).mp (o.session.returns_zoom.mp h))
  · intro h
    exact returns_of_value (value_findMaster h)

theorem connect_returns (h : KeepsFlag o) (a : Attempt) (s : σ) :
    Returns (do
      o.tryConnect a.accepted
      if (o.session.get (← get)).isConnected then
        o.notifyState .ok
        if a.lost then modify (o.session.update Session.lose)
        o.resume
      else
        o.notifyState .failed) s ↔ o.ConnectReturns a s := by
  unfold ConnectReturns
  rw [returns_seq, returns_get]
  refine and_congr Iff.rfl ?_
  dsimp only
  generalize after (o.tryConnect a.accepted) s = s₁
  split
  · rw [returns_seq, notifyState_returns]
    refine and_congr Iff.rfl ?_
    generalize after (o.notifyState .ok) s₁ = s₂
    cases a.lost with
    | false =>
      rw [if_neg Bool.false_ne_true]
      exact (h.resume_returns s₂).trans ⟨fun hc => ⟨hc, rfl⟩, fun hc => hc.1⟩
    | true =>
      rw [if_pos rfl, returns_modify, h.resume_returns, Lens.update, o.session.get_set]
      exact ⟨fun hc => absurd hc Bool.false_ne_true, fun hc => absurd hc.2.symm Bool.false_ne_true⟩
  · exact notifyState_returns _ _

theorem reconnect_returns (h : KeepsFlag o) (a : Attempt) (s : σ) :
    Returns (o.reconnect a) s ↔ o.ReconnectReturns a s := by
  unfold Owner.reconnect ReconnectReturns
  rw [returns_modify]
  dsimp only
  generalize o.session.update Session.countAttempt s = s₁
  constructor
  · intro hr
    obtain ⟨b, s₂, hr⟩ := hr
    obtain ⟨found, s₃, hfind, hrest⟩ := bind_eq_ok hr
    have hl := (findMaster_returns a.lookup s₁).mp ⟨_, _, hfind⟩
    have hfound := Option.some.inj ((value_ok hfind).symm.trans (value_findMaster hl))
    rw [← after_ok hfind, hfound] at hrest
    refine ⟨hl, ?_⟩
    split
    · next hm =>
      rw [hm, if_pos rfl] at hrest
      exact (connect_returns h a _).mp ⟨_, _, hrest⟩
    · next hm =>
      rw [Bool.not_eq_true] at hm
      rw [hm, if_neg Bool.false_ne_true] at hrest
      exact (notifyState_returns _ _).mp ⟨_, _, hrest⟩
  · rintro ⟨hl, hrest⟩
    rw [returns_bind (value_findMaster hl)]
    split at hrest
    · next hm =>
      rw [hm, if_pos rfl]
      exact (connect_returns h a _).mpr hrest
    · next hm =>
      rw [Bool.not_eq_true] at hm
      rw [hm, if_neg Bool.false_ne_true]
      exact (notifyState_returns _ _).mpr hrest

/-- The loop, by induction on its attempts. -/
theorem reconnectLoop_returns (h : KeepsFlag o) (attempts : List Attempt) (s : σ) :
    Returns (o.reconnectLoop attempts) s ↔ o.LoopReturns attempts s := by
  induction attempts generalizing s with
  | nil => exact ⟨fun _ => trivial, fun _ => ⟨_, _, rfl⟩⟩
  | cons a attempts ih =>
    unfold Owner.reconnectLoop LoopReturns
    rw [returns_get]
    split
    · next hs =>
      rw [returns_seq, returns_seq, sleepBeforeNextReconnectAttempt_returns, reconnect_returns h, ih]
      exact ⟨fun hr _ => hr, fun hr => hr hs⟩
    · next hs => exact ⟨fun _ hs' => absurd hs' hs, fun _ => returns_pure _ _⟩

/-! ## What is left of the flag -/

theorem KeepsFlag.flag (h : KeepsFlag o) {α : Type} {p : EStateM Fault σ α}
    (hp : KeepsFlag o → Follows o.SameFlag p) (s : σ) :
    (o.session.get (after p s)).reconnecting = (o.session.get s).reconnecting :=
  (hp h).keeps (I := fun t => (o.session.get t).reconnecting = (o.session.get s).reconnecting)
    (fun _ _ hstep hs => hstep.trans hs) rfl

theorem get_over (f : Session → Session) (s : σ) :
    o.session.get (o.session.update f s) = f (o.session.get s) :=
  o.session.get_set _ _

/-- The last lines of the handler release the flag if and only if the connect
callback returns when it is told that the owner gives up. -/
theorem finishReconnection_released (h : KeepsFlag o) {s : σ}
    (hflag : (o.session.get s).reconnecting = true) :
    (o.session.get (after o.finishReconnection s)).reconnecting = false ↔
      ((o.session.get s).isConnected = false → o.CallbackReturns .stopped (after o.giveUp s)) := by
  unfold finishReconnection
  rw [after_get_bind]
  cases hc : (o.session.get s).isConnected with
  | true =>
    refine ⟨fun _ hc' => absurd hc'.symm Bool.false_ne_true, fun _ => ?_⟩
    exact congrArg Session.reconnecting (get_over _ _)
  | false =>
    rw [Bool.not_false, if_pos rfl]
    obtain ⟨⟨⟩, -, hgive⟩ := (h.giveUp_returns s).exists_value
    have hkept := h.flag (fun h => h.giveUp) s
    rw [hflag] at hkept
    generalize after o.giveUp s = s₁ at hgive hkept ⊢
    rw [after_bind_ok hgive, ← notifyState_returns]
    have hflag₁ := h.flag (fun h => h.notifyState_follows .stopped) s₁
    cases hn : o.notifyState .stopped s₁ with
    | ok u s₂ =>
      rw [after_bind_ok hn]
      refine ⟨fun _ _ => ⟨_, _, hn⟩, fun _ => ?_⟩
      exact congrArg Session.reconnecting (get_over _ _)
    | error e s₂ =>
      rw [after_error hn] at hflag₁
      rw [after_bind_error hn]
      refine ⟨fun hf => ?_, fun hret => ?_⟩
      · exact absurd (hf.symm.trans (hflag₁.trans hkept)) Bool.false_ne_true
      · obtain ⟨_, _, hret⟩ := hret rfl
        exact absurd (hn.symm.trans hret) (by simp)

/-- A handler that is left, whether it returns or throws, leaves the flag clear if
and only if the flag was clear and every call that the handler makes returns. -/
theorem connectionDisconnectionHandler_released (h : KeepsFlag o) {others : σ → σ}
    (hothers : ∀ s, o.SameFlag s (others s)) {attempts : List Attempt} {s : σ}
    (hleft : o.Leaves others attempts s) :
    (o.session.get (after (o.connectionDisconnectionHandler others attempts) s)).reconnecting =
        false ↔
      (o.session.get s).reconnecting = false ∧ o.CallsReturn others attempts s := by
  unfold Leaves at hleft
  unfold connectionDisconnectionHandler at hleft ⊢
  rw [after_get_bind]
  rw [value_get_bind] at hleft
  cases hr : (o.session.get s).reconnecting with
  | true =>
    rw [if_pos rfl, after_pure, hr]
    exact ⟨fun hf => absurd hf.symm Bool.false_ne_true, fun hf => hf.1⟩
  | false =>
    rw [hr, if_neg Bool.false_ne_true, value_modify_bind] at hleft
    rw [if_neg Bool.false_ne_true, after_modify_bind]
    have hset : (o.session.get (o.session.update Session.beginReconnection s)).reconnecting = true :=
      congrArg Session.reconnecting (get_over _ _)
    unfold CallsReturn
    generalize o.session.update Session.beginReconnection s = s₁ at hleft hset ⊢
    dsimp only
    rw [← notifyState_returns]
    have hflag₂ := h.flag (fun h => h.notifyState_follows .dropped) s₁
    cases hn : o.notifyState .dropped s₁ with
    | error e s₂ =>
      -- the connect callback throws
      rw [after_error hn] at hflag₂
      rw [after_bind_error hn, hflag₂, hset]
      refine ⟨fun hf => absurd hf.symm Bool.false_ne_true, fun hf => ?_⟩
      exact absurd hf.2.1 (not_returns_of_error hn)
    | ok u s₂ =>
      -- the lock is taken after what other threads call, and then only the loop writes
      rw [after_ok hn] at hflag₂
      rw [value_bind_ok hn, value_modify_bind] at hleft
      rw [after_bind_ok hn, after_modify_bind, after_ok hn]
      have hflag₃ : (o.session.get (others s₂)).reconnecting = true :=
        (hothers s₂).trans (hflag₂.trans hset)
      generalize others s₂ = s₃ at hleft hflag₃ ⊢
      rw [← reconnectLoop_returns h]
      have hflag₄ := h.flag (fun h => h.reconnectLoop_follows attempts) s₃
      cases hloop : o.reconnectLoop attempts s₃ with
      | error e s₄ =>
        -- a call of the loop throws
        rw [after_error hloop] at hflag₄
        rw [after_bind_error hloop, hflag₄, hflag₃]
        refine ⟨fun hf => absurd hf.symm Bool.false_ne_true, fun hf => ?_⟩
        exact absurd hf.2.2.1 (not_returns_of_error hloop)
      | ok left s₄ =>
        rw [after_ok hloop] at hflag₄
        rw [value_bind_ok hloop] at hleft
        cases left with
        | false => exact absurd rfl hleft
        | true =>
          rw [after_bind_ok hloop, if_pos rfl, after_ok hloop]
          rw [after_bind_pure, finishReconnection_released h (hflag₄.trans hflag₃)]
          exact ⟨fun hf => ⟨rfl, ⟨_, _, hn⟩, ⟨_, _, hloop⟩, hf⟩, fun hf => hf.2.2.2⟩

end Owner

/-! ## The client -/

namespace Client

variable {κ : Type} {notify : Notification → EStateM Fault (Client κ) Unit}

/-- The flag is the same in both states. -/
def SameFlag (c c' : Client κ) : Prop :=
  c'.reconnecting = c.reconnecting

theorem clearCallbacks_sameFlag (c : Client κ) : SameFlag c c.clearCallbacks := by
  unfold clearCallbacks
  split <;> rfl

theorem tryCommit_follows : Follows SameFlag (tryCommit : EStateM Fault (Client κ) Unit) := by
  unfold tryCommit
  refine .tryCatch (.zoom fun c => rfl) fun e => ?_
  cases e with
  | redisError what => exact .bind (.modify clearCallbacks_sameFlag) fun _ => .throw _
  | _ => exact .throw _

theorem Call.sameFlag {c c' : Client κ} (h : Call c c') : SameFlag c c' := by
  cases h with
  | session h => exact h.reconnecting
  | commit =>
    have hcommit : Follows SameFlag (Client.commit : EStateM Fault (Client κ) Unit) :=
      .bind .get fun _ => .ite tryCommit_follows (.pure _)
    exact hcommit.keeps (I := SameFlag c) (fun _ _ hstep hc => hstep.trans hc) rfl
  | disconnect => exact (clearCallbacks_sameFlag _).trans rfl
  | _ => rfl

theorem resume_follows : Follows SameFlag (resume : EStateM Fault (Client κ) Unit) := by
  unfold resume
  refine .bind (.modify fun c => ?_) fun _ => .bind (.modify fun c => ?_) fun _ =>
    .bind (.modify fun c => ?_) fun _ => tryCommit_follows
  · unfold reAuth
    split <;> rfl
  · unfold reSelect
    split <;> rfl
  · rw [resendFailedCommands_eq]
    rfl

theorem tryCommit_returns (c : Client κ) :
    Returns tryCommit c ↔ c.client.client.connected = true := by
  cases hc : c.client.client.connected with
  | true => exact ⟨fun _ => rfl, fun _ => ⟨_, _, tryCommit_connected hc⟩⟩
  | false =>
    refine ⟨fun h => ?_, fun h => absurd h Bool.false_ne_true⟩
    exact absurd h (not_returns_of_error (tryCommit_disconnected hc))

/-- A connect callback that reaches the client through its public functions
leaves the flag to the handler. -/
theorem keepsFlag (hn : ∀ n, Follows Call (notify n)) : (owner notify).KeepsFlag where
  session _ _ h := h.reconnecting
  notify n := (hn n).mono fun _ _ h => .single h.sameFlag
  countAttempt _ := rfl
  lose _ := rfl
  resume := resume_follows
  giveUp := .modify clearCallbacks_sameFlag
  resume_returns c := by
    have hclient := (resent_eq c).1
    refine (tryCommit_returns c.reAuth.reSelect.resendFailedCommands).trans ?_
    rw [hclient]
    rfl
  giveUp_returns _ := ⟨_, _, rfl⟩

end Client

/-! ## The subscriber -/

namespace Subscriber

variable {κ : Type} {notify : Notification → EStateM Fault (Subscriber κ) Unit}

/-- The two states have the same flag, and a connection that is as open. -/
structure SameLink (s s' : Subscriber κ) : Prop where
  reconnecting : s'.reconnecting = s.reconnecting
  connected : s'.client.client.connected = s.client.client.connected

theorem SameLink.trans {s₁ s₂ s₃ : Subscriber κ} (h : SameLink s₁ s₂) (h' : SameLink s₂ s₃) :
    SameLink s₁ s₃ :=
  ⟨h'.reconnecting.trans h.reconnecting, h'.connected.trans h.connected⟩

theorem reAuth_sameLink (s : Subscriber κ) : SameLink s s.reAuth := by
  unfold reAuth
  split <;> exact ⟨rfl, rfl⟩

theorem foldl_sameLink {α : Type} {f : Subscriber κ → α → Subscriber κ}
    (hf : ∀ s a, SameLink s (f s a)) (as : List α) (s : Subscriber κ) :
    SameLink s (as.foldl f s) := by
  induction as generalizing s with
  | nil => exact ⟨rfl, rfl⟩
  | cons a as ih => exact (hf s a).trans (ih (f s a))

theorem reSubscribe_sameLink (s : Subscriber κ) : SameLink s s.reSubscribe := by
  unfold reSubscribe
  dsimp only
  have hsub := foldl_sameLink (f := fun s chan => s.unprotectedSubscribe chan.1 chan.2)
    (fun s _ => ⟨rfl, rfl⟩) s.subscribedChannels.toList { s with subscribedChannels := ∅ }
  generalize s.subscribedChannels.toList.foldl _ _ = s₁ at hsub ⊢
  have hpsub := foldl_sameLink (f := fun s chan => s.unprotectedPsubscribe chan.1 chan.2)
    (fun s _ => ⟨rfl, rfl⟩) s₁.psubscribedChannels.toList { s₁ with psubscribedChannels := ∅ }
  exact ⟨hpsub.reconnecting.trans hsub.reconnecting, hpsub.connected.trans hsub.connected⟩

theorem Call.reconnecting {s s' : Subscriber κ} (h : Call s s') :
    s'.reconnecting = s.reconnecting := by
  cases h with
  | session h => exact h.reconnecting
  | unsubscribe channel =>
    unfold Subscriber.unsubscribe
    split <;> rfl
  | punsubscribe pattern =>
    unfold Subscriber.punsubscribe
    split <;> rfl
  | commit =>
    unfold Subscriber.commit
    rw [Lens.after_zoom]
    rfl
  | _ => rfl

theorem commit_returns (s : Subscriber κ) :
    Returns commit s ↔ s.client.client.connected = true := by
  unfold commit
  rw [Lens.returns_zoom]
  exact RedisConnection.commit_returns s.client

/-- A connect callback that reaches the subscriber through its public functions
leaves the flag to the handler. -/
theorem keepsFlag (hn : ∀ n, Follows Call (notify n)) : (owner notify).KeepsFlag where
  session _ _ h := h.reconnecting
  notify n := (hn n).mono fun _ _ h => .single h.reconnecting
  countAttempt _ := rfl
  lose _ := rfl
  resume := by
    refine .bind (.modify fun s => (reAuth_sameLink s).reconnecting) fun _ =>
      .bind (.modify fun s => (reSubscribe_sameLink s).reconnecting) fun _ => ?_
    exact .zoom fun s => rfl
  giveUp := .modify fun _ => rfl
  resume_returns s := by
    have hresume : Returns resume s ↔ Returns commit s.reAuth.reSubscribe := by
      unfold resume
      rw [returns_modify, returns_modify]
    refine hresume.trans ((commit_returns _).trans ?_)
    rw [((reAuth_sameLink s).trans (reSubscribe_sameLink _)).connected]
    rfl
  giveUp_returns _ := ⟨_, _, rfl⟩

end Subscriber

/-! ## Both classes -/

theorem sameFlag_of_calls {σ : Type} {o : Owner σ} {Call : σ → σ → Prop}
    (hcall : ∀ s s', Call s s' → o.SameFlag s s') {s s' : σ}
    (h : Relation.ReflTransGen Call s s') : o.SameFlag s s' := by
  induction h with
  | refl => rfl
  | tail _ hstep ih => exact (hcall _ _ hstep).trans ih

/-- In `client` and in `subscriber`, whatever the connect callback and the other
threads call: when the handler is left, the flag is clear if and only if it was
clear before and every call that the handler makes returns. -/
theorem reconnecting_released_iff {κ : Type} (attempts : List Attempt)
    {notify : Notification → EStateM Fault (Client κ) Unit}
    (hn : ∀ n, Follows Client.Call (notify n)) {others : Client κ → Client κ}
    (hothers : ∀ c, Relation.ReflTransGen Client.Call c (others c)) (c : Client κ)
    {notify' : Notification → EStateM Fault (Subscriber κ) Unit}
    (hn' : ∀ n, Follows Subscriber.Call (notify' n)) {others' : Subscriber κ → Subscriber κ}
    (hothers' : ∀ s, Relation.ReflTransGen Subscriber.Call s (others' s)) (s : Subscriber κ) :
    ((Client.owner notify).Leaves others attempts c →
      ((after (Client.connectionDisconnectionHandler notify others attempts) c).reconnecting =
          false ↔
        c.reconnecting = false ∧ (Client.owner notify).CallsReturn others attempts c)) ∧
    ((Subscriber.owner notify').Leaves others' attempts s →
      ((after (Subscriber.connectionDisconnectionHandler notify' others' attempts) s).reconnecting =
          false ↔
        s.reconnecting = false ∧ (Subscriber.owner notify').CallsReturn others' attempts s)) := by
  constructor
  · intro hleft
    refine Owner.connectionDisconnectionHandler_released (Client.keepsFlag hn) (fun c => ?_) hleft
    exact sameFlag_of_calls (fun _ _ h => h.sameFlag) (hothers c)
  · intro hleft
    refine Owner.connectionDisconnectionHandler_released (Subscriber.keepsFlag hn') (fun s => ?_) hleft
    exact sameFlag_of_calls (fun _ _ h => h.reconnecting) (hothers' s)

/-- A client that was dropped and may reconnect once, to the master of that name
if one is given. -/
def droppedClient (masterName : Bytes) : Client Nat where
  masterName := masterName
  maxReconnects := 1
  connectCallback := true

/-- A subscriber that was dropped and may reconnect once. -/
def droppedSubscriber : Subscriber Nat where
  maxReconnects := 1
  connectCallback := true

/-- Where the calls return, both handlers clear the flag. -/
theorem reconnecting_released_iff_accepted :
    ((after (Client.connectionDisconnectionHandler Client.silent id [{ accepted := true }])
          (droppedClient [])).reconnecting = false ↔
        (droppedClient []).reconnecting = false ∧
          (Client.owner Client.silent).CallsReturn id [{ accepted := true }] (droppedClient [])) ∧
      ((after (Subscriber.connectionDisconnectionHandler (fun _ => pure ()) id
          [{ accepted := true }]) droppedSubscriber).reconnecting = false ↔
        droppedSubscriber.reconnecting = false ∧
          (Subscriber.owner fun _ => pure ()).CallsReturn id [{ accepted := true }]
            droppedSubscriber) := by
  have hclient : ∀ n, Follows Client.Call ((Client.silent : _ → EStateM Fault (Client Nat) Unit) n) :=
    fun _ => .pure ()
  have hsubscriber : ∀ _ : Notification,
      Follows Subscriber.Call (pure () : EStateM Fault (Subscriber Nat) Unit) := fun _ => .pure ()
  have h := reconnecting_released_iff [{ accepted := true }] hclient (fun _ => .refl)
    (droppedClient []) hsubscriber (fun _ => .refl) droppedSubscriber
  exact ⟨h.1 (by decide +kernel), h.2 (by decide +kernel)⟩

/-- A client that looks for its master when no sentinel is registered any more,
and a subscriber whose new connection is lost before it is written to, keep the
flag set. -/
theorem not_reconnecting_released :
    (¬ ∀ (attempts : List Attempt) (c : Client Nat), c.reconnecting = false →
      (Client.owner Client.silent).Leaves id attempts c →
      (after (Client.connectionDisconnectionHandler Client.silent id attempts) c).reconnecting =
        false) ∧
    ¬ ∀ (attempts : List Attempt) (s : Subscriber Nat), s.reconnecting = false →
      (Subscriber.owner fun _ => pure ()).Leaves id attempts s →
      (after (Subscriber.connectionDisconnectionHandler (fun _ => pure ()) id attempts) s).reconnecting =
        false := by
  constructor
  · intro h
    have := h [{ accepted := true }] (droppedClient (ascii "mymaster")) rfl (by decide +kernel)
    exact absurd this (by decide +kernel)
  · intro h
    have := h [{ accepted := true, lost := true }] droppedSubscriber rfl (by decide +kernel)
    exact absurd this (by decide +kernel)

end CppRedis
