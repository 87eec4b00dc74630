import CppRedis.Session

/-!
# What an attempt to connect again does

An attempt of `reconnect` calls `connect` with the members that the session has saved, so
a failed one changes little: it counts, it tells the connect callback, and it may look the
master up. `Idle S` says that `S` relates the states before and after such a change. An
attempt that returns has either made only such changes, or it has opened a connection
between them and then run `resume` (`reconnect_ok`); the loop and the handler follow.
-/

namespace CppRedis

open Text Procedure

namespace Session

/-- An attempt was refused. -/
def refused (endpoint : Endpoint) (t : Session) : Session :=
  { t with client := t.client.refuse endpoint }

/-- An attempt was accepted. -/
def accepted (endpoint : Endpoint) (t : Session) : Session :=
  { t with client := t.client.accept endpoint true true }

end Session

namespace Owner

variable {σ : Type} {o : Owner σ} {S : σ → σ → Prop}

/-- What a failed attempt does is a change of `S`, and leaves the connection as open as it
was. The notification that the connection was dropped is not part of an attempt. -/
structure Idle (o : Owner σ) (S : σ → σ → Prop) : Prop where
  refl : ∀ s, S s s
  trans : ∀ {s₁ s₂ s₃}, S s₁ s₂ → S s₂ s₃ → S s₁ s₃
  connected : ∀ {s s'}, S s s' → (o.session.get s').isConnected = (o.session.get s).isConnected
  told : ∀ s n, n.state ≠ .dropped → S s (after (o.notify n) (o.session.update (·.record n) s))
  count : ∀ s, S s (o.session.update Session.countAttempt s)
  lookup : ∀ s lookup,
    S s (o.session.set (after (Session.getMasterAddrByName lookup) (o.session.get s)) s)
  refuse : ∀ s endpoint, S s (o.session.update (Session.refused endpoint) s)

/-- A connection was opened, between changes of `S`. -/
def Opens (o : Owner σ) (S : σ → σ → Prop) (s s' : σ) : Prop :=
  ∃ endpoint s₀, S s s₀ ∧ S (o.session.update (Session.accepted endpoint) s₀) s'

/-- An attempt that returns ends with what `connect` left behind: what it throws is caught. -/
theorem tryConnect_ok {accepted : Bool} {s s' : σ} (h : o.tryConnect accepted s = .ok () s') :
    after (o.connect (o.session.get s).reconnectParams accepted) s = s' := by
  unfold tryConnect at h
  rw [get_bind] at h
  cases hconnect : o.connect (o.session.get s).reconnectParams accepted s with
  | ok u s₁ =>
    rw [catch_ok hconnect] at h
    cases h
    exact after_ok hconnect
  | error e s₁ =>
    rw [catch_error hconnect] at h
    split at h
    · cases h
      exact after_error hconnect
    · cases h

/-- Once it is connected, the loop ends. -/
theorem reconnectLoop_connected (attempts : List Attempt) {s : σ}
    (h : (o.session.get s).isConnected = true) : o.reconnectLoop attempts s = .ok true s := by
  have hstop := Session.shouldReconnect_of_connected h
  cases attempts with
  | nil =>
    unfold Owner.reconnectLoop
    rw [get_bind, hstop]
    rfl
  | cons a attempts =>
    unfold Owner.reconnectLoop
    rw [get_bind, hstop]
    rfl

namespace Idle

/-- What follows a change of `S` and a connection that was opened. -/
theorem opens_of {s₁ s₂ s₃ : σ} (h : Idle o S) (hs : S s₁ s₂) (ho : o.Opens S s₂ s₃) :
    o.Opens S s₁ s₃ := by
  obtain ⟨endpoint, s₀, hbefore, hafter⟩ := ho
  exact ⟨endpoint, s₀, h.trans hs hbefore, hafter⟩

theorem opens_trans {s₁ s₂ s₃ : σ} (h : Idle o S) (ho : o.Opens S s₁ s₂) (hs : S s₂ s₃) :
    o.Opens S s₁ s₃ := by
  obtain ⟨endpoint, s₀, hbefore, hafter⟩ := ho
  exact ⟨endpoint, s₀, hbefore, h.trans hafter hs⟩

theorem opens_connected {s s' : σ} (h : Idle o S) (ho : o.Opens S s s') :
    (o.session.get s').isConnected = true := by
  obtain ⟨endpoint, s₀, -, hafter⟩ := ho
  have hget : o.session.get (o.session.update (Session.accepted endpoint) s₀) =
      (o.session.get s₀).accepted endpoint := o.session.get_set _ _
  rw [h.connected hafter, hget]
  rfl

variable (h : Idle o S)
include h

/-! ## Telling and looking up -/

theorem callConnectCallback (host : Bytes) (port : Nat) {state : ConnectState}
    (hstate : state ≠ .dropped) (s : σ) : S s (after (o.callConnectCallback host port state) s) := by
  unfold Owner.callConnectCallback
  rw [after_get_bind]
  split
  · exact h.told s ⟨host, port, state⟩ hstate
  · exact h.refl s

theorem notifyState {state : ConnectState} (hstate : state ≠ .dropped) (s : σ) :
    S s (after (o.notifyState state) s) :=
  h.callConnectCallback _ _ hstate s

theorem notifyState_ok {state : ConnectState} (hstate : state ≠ .dropped) {s s' : σ}
    (hs : o.notifyState state s = .ok () s') : S s s' := by
  have hnotify := h.notifyState hstate s
  rwa [after_ok hs] at hnotify

theorem sleep_ok {s s' : σ} (hs : o.sleepBeforeNextReconnectAttempt s = .ok () s') : S s s' := by
  unfold sleepBeforeNextReconnectAttempt at hs
  rw [get_bind] at hs
  split at hs
  · cases hs
    exact h.refl s
  · exact h.notifyState_ok (by decide) hs

theorem findMaster (lookup : Lookup) (s : σ) : S s (after (o.findMaster lookup) s) := by
  unfold Owner.findMaster
  rw [after_get_bind]
  split
  · exact h.refl s
  · rw [Lens.after_zoom]
    exact h.lookup s lookup

/-! ## Attempts -/

/-- A call of `connect` once the parameters are saved, however it is left: it opens a
connection where there is none, the callback, told that it starts, returns, and the server
accepts. -/
theorem connect_saved (p : Session.ConnectParams) (accepted : Bool) {s s' : σ}
    (hsaved : o.session.update (·.saveConnect p) s = s') :
    S s' (after (o.connect p accepted) s) ∨
      (o.session.get s').isConnected = false ∧ o.Opens S s' (after (o.connect p accepted) s) := by
  unfold Owner.connect
  rw [after_modify_bind, hsaved]
  have hstart := h.callConnectCallback p.host p.port (show ConnectState.start ≠ .dropped by decide) s'
  cases hcall : o.callConnectCallback p.host p.port .start s' with
  | error e s₁ =>
    rw [after_bind_error hcall]
    rw [after_error hcall] at hstart
    exact .inl hstart
  | ok u s₁ =>
    rw [after_bind_ok hcall]
    rw [after_ok hcall] at hstart
    by_cases hrefused : (o.session.get s₁).client.client.connected = true ∨ accepted = false
    · have hrefuse := o.session.zoom_error (s := s₁) (Session.connection.zoom_error
        (RedisConnection.connect_refused p.host p.port true true p.timeoutMsecs hrefused))
      rw [after_bind_error hrefuse]
      exact .inl (h.trans hstart (h.refuse s₁ _))
    · obtain ⟨hclosed, haccepted⟩ := not_or.mp hrefused
      have hclosed : (o.session.get s₁).client.client.connected = false := Bool.eq_false_iff.mpr hclosed
      have haccept := o.session.zoom_ok (s := s₁) (Session.connection.zoom_ok
        (RedisConnection.connect_accepted p.host p.port true true p.timeoutMsecs hclosed))
      rw [Bool.not_eq_false _ |>.mp haccepted, after_bind_ok haccept]
      exact .inr ⟨(h.connected hstart).symm.trans hclosed, _, s₁, hstart,
        h.notifyState (by decide) _⟩

variable (hresume : ∀ {s s'}, o.resume s = .ok () s' →
  (o.session.get s).isConnected = true ∧ (o.session.get s').isConnected = true)
include hresume

/-- An attempt that returns has failed, or it has opened a connection and then run
`resume`, for which the connection must still be there. -/
theorem reconnect_ok {a : Attempt} {s s' : σ} (hclosed : (o.session.get s).isConnected = false)
    (hs : o.reconnect a s = .ok () s') :
    S s s' ∨ ∃ s₁, o.Opens S s s₁ ∧ o.resume s₁ = .ok () s' := by
  unfold Owner.reconnect at hs
  rw [modify_bind] at hs
  obtain ⟨found, s₁, hfind, hs⟩ := bind_eq_ok hs
  have hfound : S s s₁ := by
    rw [← after_ok hfind]
    exact h.trans (h.count s) (h.findMaster a.lookup _)
  cases found with
  | false => exact .inl (h.trans hfound (h.notifyState_ok (by decide) hs))
  | true =>
    rw [if_pos rfl] at hs
    obtain ⟨⟨⟩, s₂, htry, hs⟩ := bind_eq_ok hs
    rw [get_bind] at hs
    have hclosed₁ : (o.session.get s₁).isConnected = false := (h.connected hfound).trans hclosed
    have hconnect := h.connect_saved (o.session.get s₁).reconnectParams a.accepted
      (o.session.set_get s₁)
    rw [tryConnect_ok htry] at hconnect
    rcases hconnect with hfailed | ⟨-, hopened⟩
    · -- the session is still not connected
      rw [h.connected hfailed, hclosed₁, if_neg Bool.false_ne_true] at hs
      exact .inl (h.trans hfound (h.trans hfailed (h.notifyState_ok (by decide) hs)))
    · rw [h.opens_connected hopened, if_pos rfl] at hs
      obtain ⟨⟨⟩, s₃, htold, hs⟩ := bind_eq_ok hs
      have hopened₃ := h.opens_of hfound (h.opens_trans hopened (h.notifyState_ok (by decide) htold))
      cases hlost : a.lost with
      | false =>
        rw [hlost, if_neg Bool.false_ne_true] at hs
        exact .inr ⟨s₃, hopened₃, hs⟩
      | true =>
        -- the commit that ends `resume` would have thrown
        rw [hlost, if_pos rfl, modify_bind] at hs
        have hget : o.session.get (o.session.update Session.lose s₃) =
            (o.session.get s₃).lose := o.session.get_set _ _
        have hstill := (hresume hs).1
        rw [hget] at hstill
        exact absurd hstill Bool.false_ne_true

/-- The loop, by induction on its attempts: the first one that opens a connection is the
last one that is made. -/
theorem reconnectLoop_ok {attempts : List Attempt} {s s' : σ}
    (hclosed : (o.session.get s).isConnected = false)
    (hs : o.reconnectLoop attempts s = .ok true s') :
    S s s' ∨ ∃ s₁, o.Opens S s s₁ ∧ o.resume s₁ = .ok () s' := by
  induction attempts generalizing s with
  | nil =>
    unfold Owner.reconnectLoop at hs
    rw [get_bind] at hs
    injection hs with _ hstate
    rw [← hstate]
    exact .inl (h.refl s)
  | cons a attempts ih =>
    unfold Owner.reconnectLoop at hs
    rw [get_bind] at hs
    split at hs
    · obtain ⟨⟨⟩, s₁, hsleep, hs⟩ := bind_eq_ok hs
      obtain ⟨⟨⟩, s₂, hreconnect, hs⟩ := bind_eq_ok hs
      have hslept := h.sleep_ok hsleep
      rcases h.reconnect_ok hresume ((h.connected hslept).trans hclosed) hreconnect with
        hfailed | ⟨s₃, hopened, hresumed⟩
      · have hidle := h.trans hslept hfailed
        rcases ih ((h.connected hidle).trans hclosed) hs with hstop | ⟨s₃, hopened, hresumed⟩
        · exact .inl (h.trans hidle hstop)
        · exact .inr ⟨s₃, h.opens_of hidle hopened, hresumed⟩
      · rw [reconnectLoop_connected attempts (hresume hresumed).2] at hs
        cases hs
        exact .inr ⟨s₃, h.opens_of hslept hopened, hresumed⟩
    · cases hs
      exact .inl (h.refl _)

/-- A handler that was left has given up, or it has opened a connection and run `resume`.
`s₀` is the state in which it takes the lock. -/
theorem handler_ok {others : σ → σ} {attempts : List Attempt} {s s' s₀ : σ}
    (hidle : (o.session.get s).reconnecting = false)
    (hlock : others (after (o.notifyState .dropped)
      (o.session.update Session.beginReconnection s)) = s₀)
    (hclosed : (o.session.get s₀).isConnected = false)
    (hs : o.connectionDisconnectionHandler others attempts s = .ok true s') :
    (∃ s₁ s₂ s₃, S s₀ s₁ ∧ o.giveUp s₁ = .ok () s₂ ∧ S s₂ s₃ ∧
        s' = o.session.update Session.endReconnection s₃) ∨
      ∃ s₁ s₂, o.Opens S s₀ s₁ ∧ o.resume s₁ = .ok () s₂ ∧
        s' = o.session.update Session.endReconnection s₂ := by
  unfold Owner.connectionDisconnectionHandler at hs
  rw [get_bind, hidle, if_neg Bool.false_ne_true, modify_bind] at hs
  obtain ⟨⟨⟩, s₁, hdropped, hs⟩ := bind_eq_ok hs
  rw [after_ok hdropped] at hlock
  rw [modify_bind, hlock] at hs
  obtain ⟨left, s₂, hloop, hs⟩ := bind_eq_ok hs
  cases left with
  | false => cases hs
  | true =>
    rw [if_pos rfl] at hs
    obtain ⟨⟨⟩, s₃, hfinish, hs⟩ := bind_eq_ok hs
    cases hs
    unfold Owner.finishReconnection at hfinish
    rw [get_bind] at hfinish
    rcases h.reconnectLoop_ok hresume hclosed hloop with hstop | ⟨s₄, hopened, hresumed⟩
    · rw [h.connected hstop, hclosed, Bool.not_false, if_pos rfl] at hfinish
      obtain ⟨⟨⟩, s₄, hgiveUp, hfinish⟩ := bind_eq_ok hfinish
      obtain ⟨⟨⟩, s₅, htold, hfinish⟩ := bind_eq_ok hfinish
      cases hfinish
      exact .inl ⟨s₂, s₄, s₅, hstop, hgiveUp, h.notifyState_ok (by decide) htold, rfl⟩
    · rw [(hresume hresumed).2, Bool.not_true, if_neg Bool.false_ne_true] at hfinish
      cases hfinish
      exact .inr ⟨s₄, s₂, hopened, hresumed, rfl⟩

end Idle

end Owner

end CppRedis
