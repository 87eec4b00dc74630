import CppRedis.Episodes

/-!
# What an episode leaves of the pending commands

A disconnection handling of a client makes a bounded number of attempts, and ends connected or with
every pending command handed to a failure thread. It looks at the flag of `cancel_reconnect` before
it sleeps only: a call that comes while it sleeps is followed by one more attempt.

* `Harmless`: what the connect callback and other threads may do, before the handler takes the lock
  and after.
* `Resolves`: the bounds and the end of an episode.
* `resolves_iff`: an episode is like that, if and only if it sleeps without being cancelled.
-/

namespace CppRedis

open Text Procedure Session

/-! ## Attempts left -/

/-- The attempts that the limit still allows. -/
def Session.attemptsLeft (t : Session) : Nat :=
  (t.maxReconnects - t.currentReconnectAttempts).toNat

/-- With a limit, a session that wants an attempt has one left. -/
theorem Session.attemptsLeft_pos {t : Session} (hlimit : t.maxReconnects ≠ -1)
    (h : t.shouldReconnect = true) : 0 < t.attemptsLeft := by
  have hleft := (shouldReconnect_iff.mp h).2.2.resolve_left hlimit
  unfold Session.attemptsLeft
  omega

/-- Each turn takes one of them. -/
theorem Owner.Aloof.turn_taken {σ : Type} {o : Owner σ} (h : o.Aloof) {limit : Int}
    (hlimit : limit ≠ -1) {turn : Turn σ} {s s₁ s₂ : σ} (hturn : o.TurnAlone turn)
    (hs : (o.session.get s).maxReconnects = limit) (ht : o.retry.Turn turn s s₁ s₂) :
    (o.session.get s₂).maxReconnects = limit ∧
      (o.session.get s₂).attemptsLeft < (o.session.get s).attemptsLeft := by
  obtain ⟨states, htold⟩ := h.turn_kept hturn ht
  have hmax : (o.session.get s₂).maxReconnects = (o.session.get s).maxReconnects :=
    htold.maxReconnects
  have hcount : (o.session.get s₂).currentReconnectAttempts =
      (o.session.get s).currentReconnectAttempts + 1 := htold.currentReconnectAttempts
  have hpos := Session.attemptsLeft_pos (by rw [hs]; exact hlimit) ht.again
  refine ⟨hmax.trans hs, ?_⟩
  unfold Session.attemptsLeft at hpos ⊢
  rw [hmax, hcount]
  omega

namespace Client

variable {κ : Type}

/-! ## Pending commands -/

/-- What failure threads have been handed, and what waits for its replies. -/
def owed (c : Client κ) : List (CommandRequest κ) :=
  c.failureThreads.flatten ++ c.commands

/-- Some commands were sent; nothing else joined or left. -/
def Queues (c c' : Client κ) : Prop :=
  ∃ sent, c'.owed = c.owed ++ sent ∧ c'.pushed = c.pushed ++ sent

/-- No command was sent, and those that wait still do or were handed to a failure thread. -/
structure Passive (c c' : Client κ) : Prop where
  owed : c'.owed = c.owed
  pushed : c'.pushed = c.pushed
  commands : c.commands = [] → c'.commands = []

theorem Passive.refl (c : Client κ) : Passive c c :=
  ⟨rfl, rfl, id⟩

theorem Passive.trans {c₁ c₂ c₃ : Client κ} (h : Passive c₁ c₂) (h' : Passive c₂ c₃) :
    Passive c₁ c₃ :=
  ⟨h'.owed.trans h.owed, h'.pushed.trans h.pushed, fun hnone => h'.commands (h.commands hnone)⟩

theorem Queues.trans {c₁ c₂ c₃ : Client κ} (h : Queues c₁ c₂) (h' : Queues c₂ c₃) :
    Queues c₁ c₃ := by
  obtain ⟨sent, howed, hpushed⟩ := h
  obtain ⟨sent', howed', hpushed'⟩ := h'
  refine ⟨sent ++ sent', ?_, ?_⟩
  · rw [howed', howed, List.append_assoc]
  · rw [hpushed', hpushed, List.append_assoc]

theorem Passive.queues {c c' : Client κ} (h : Passive c c') : Queues c c' := by
  refine ⟨[], ?_, ?_⟩
  · rw [h.owed, List.append_nil]
  · rw [h.pushed, List.append_nil]

/-- A change of the session. -/
theorem passive_session {c c' : Client κ} {t : Session} (h : c' = { c with toSession := t }) :
    Passive c c' := by
  subst h
  exact ⟨rfl, rfl, id⟩

/-- Giving up hands over what waits. -/
theorem clearCallbacks_handed (c : Client κ) :
    c.clearCallbacks.commands = [] ∧ c.clearCallbacks.failureThreads.flatten = c.owed ∧
      c.clearCallbacks.pushed = c.pushed := by
  unfold clearCallbacks owed
  split
  · next hnone =>
    have hnone := List.isEmpty_iff.mp hnone
    rw [hnone]
    exact ⟨rfl, (List.append_nil _).symm, rfl⟩
  · exact ⟨rfl, by simp, rfl⟩

/-! ## Episodes -/

/-- What the connect callback and other threads may do. The callback that is told that the
connection was dropped, and what other threads call until the handler takes the lock, may send
commands; after that nothing returns that takes the lock. The connection changes through the
attempts alone. -/
structure Harmless (notify : Notification → EStateM Fault (Client κ) Unit)
    (others : Client κ → Client κ) (turns : List (Turn (Client κ))) : Prop where
  callback : ∀ n, (owner notify).LeavesAlone (after (notify n))
  dropped : ∀ n, n.state = .dropped → ∀ c, Queues c (after (notify n) c)
  locked : ∀ n, n.state ≠ .dropped → ∀ c, Passive c (after (notify n) c)
  threads : (owner notify).LeavesAlone others
  queued : ∀ c, Queues c (others c)
  alone : ∀ turn ∈ turns, (owner notify).TurnAlone turn
  asleep : ∀ turn ∈ turns, ∀ c, Passive c (turn.asleep c)
  trying : ∀ turn ∈ turns, ∀ c, Passive c (turn.trying c)

section

variable (notify : Notification → EStateM Fault (Client κ) Unit) (others : Client κ → Client κ)
  (turns : List (Turn (Client κ))) (c : Client κ)

/-- The bounds and the end of an episode: no more attempts than allowed, so that the handler is left
when the outside has as many to offer; none after one that succeeded, and none after
`cancel_reconnect`; at its end the flag is cleared, and the client is connected, or the queue is
empty and what waited in it was handed to a failure thread once, with what was sent meanwhile. -/
structure Resolves : Prop where
  bounded : c.maxReconnects ≠ -1 →
    ((owner notify).reconnectCalls others turns c).length ≤ c.maxReconnects.toNat
  left : c.maxReconnects ≠ -1 → c.maxReconnects.toNat ≤ turns.length →
    value ((owner notify).episode others turns) c ≠ some false
  succeeded : ∀ pre m post, (owner notify).reconnectCalls others turns c = pre ++ m :: post →
    m.after.isConnected = true → post = []
  cancelled : ∀ m ∈ (owner notify).reconnectCalls others turns c, m.before.cancel = false
  exit : ∀ c', (owner notify).episode others turns c = .ok true c' →
    c'.reconnecting = false ∧ (c'.isConnected = true ∨ c'.commands = [] ∧
      ∃ sent, c'.failureThreads.flatten = c.owed ++ sent ∧ c'.pushed = c.pushed ++ sent)

/-- What the connect callback is told before a sleep. -/
def sleeping (c : Client κ) : Notification :=
  ⟨c.redisServer, c.redisPort, .sleeping⟩

/-- In a turn that begins in `c`, `cancel_reconnect` is called neither by the connect callback that
is told `sleeping` nor by another thread while the handler sleeps. -/
structure Uncancelled (turn : Turn (Client κ)) (c : Client κ) : Prop where
  callback : 0 < c.reconnectIntervalMsecs → c.connectCallback = true →
    (after (notify c.sleeping) (session.update (·.record c.sleeping) c)).cancel = c.cancel
  threads : (turn.asleep (after (owner notify).sleepBeforeNextReconnectAttempt c)).cancel =
    (after (owner notify).sleepBeforeNextReconnectAttempt c).cancel

/-- So it is in each turn that the handler begins. -/
def SleepsThrough : Prop :=
  ∀ m ∈ (owner notify).reconnectCalls others turns c, Uncancelled notify m.turn m.asked

end

variable {notify : Notification → EStateM Fault (Client κ) Unit} {others : Client κ → Client κ}
  {turns : List (Turn (Client κ))} {c c' : Client κ}

/-- With a limit, a client whose loop goes on has an attempt left. -/
theorem attemptsLeft_of_again {limit : Int} (hlimit : limit ≠ -1) (c : Client κ)
    (hmax : c.maxReconnects = limit) (hagain : (owner notify).retry.again c = true) :
    0 < c.attemptsLeft := by
  rw [← hmax] at hlimit
  exact attemptsLeft_pos hlimit hagain

namespace Harmless

variable (h : Harmless notify others turns)
include h

theorem aloof : (owner notify).Aloof :=
  Client.aloof h.callback

/-- The callback that is told that the connection was dropped may send commands. -/
theorem dropped_queues (c : Client κ) : Queues c (after ((owner notify).notifyState .dropped) c) := by
  unfold Owner.notifyState Owner.callConnectCallback
  rw [after_get_bind, after_get_bind]
  split
  · rw [after_modify_bind]
    exact (passive_session rfl).queues.trans (h.dropped _ rfl _)
  · exact (Passive.refl c).queues

/-- The state in which the handler takes the lock. -/
theorem begun {c₁ : Client κ} (hs : (owner notify).notifyState .dropped
    ((owner notify).session.update beginReconnection c) = .ok ⟨⟩ c₁) :
    Heard [.dropped] c.beginReconnection (others c₁).toSession ∧ Queues c (others c₁) := by
  have hheard := (h.aloof.notifyState_ok hs).trans_nil (h.threads c₁)
  have hqueues := h.dropped_queues ((owner notify).session.update beginReconnection c)
  rw [after_ok hs] at hqueues
  exact ⟨hheard, ((passive_session rfl).queues.trans hqueues).trans (h.queued c₁)⟩

theorem attemptsLeft_begun {c₁ : Client κ} (hs : (owner notify).notifyState .dropped
    ((owner notify).session.update beginReconnection c) = .ok ⟨⟩ c₁) :
    (others c₁).attemptsLeft = c.maxReconnects.toNat := by
  obtain ⟨hheard, -⟩ := h.begun hs
  unfold Session.attemptsLeft
  rw [hheard.maxReconnects, hheard.currentReconnectAttempts]
  exact congrArg Int.toNat (Int.sub_zero _)

/-- What a failed attempt does leaves the connection and the queue alone. -/
theorem idle : (owner notify).Idle
    fun c c' => c'.isConnected = c.isConnected ∧ Passive c c' where
  refl c := ⟨rfl, .refl c⟩
  trans h h' := ⟨h'.1.trans h.1, h.2.trans h'.2⟩
  connected h := h.1
  told c n hn := ⟨(h.callback n _).connected, (passive_session rfl).trans (h.locked n hn _)⟩
  count _ := ⟨rfl, passive_session rfl⟩
  lookup c lookup := by
    obtain ⟨host, port, hafter⟩ := Session.after_getMasterAddrByName lookup c.toSession
    have hget : (owner notify).session.get c = c.toSession := rfl
    rw [hget, hafter]
    exact ⟨rfl, passive_session rfl⟩
  refuse _ _ := ⟨rfl, passive_session rfl⟩

/-- A turn that ends without a connection has left the queue alone. -/
theorem turn_passive {turn : Turn (Client κ)} (hmem : turn ∈ turns) {c c₁ c₂ : Client κ}
    (ht : (owner notify).retry.Turn turn c c₁ c₂) (hclosed₂ : c₂.isConnected = false) :
    c.isConnected = false ∧ Passive c c₂ := by
  obtain ⟨hclosed, ⟨c', hsleep, rfl⟩, c'', hreconnect, rfl⟩ := Owner.turn_parts ht
  obtain ⟨hasleep, htrying⟩ := h.alone turn hmem
  obtain ⟨hconnected, hslept⟩ := h.idle.sleep_ok hsleep
  have hbefore := hslept.trans (h.asleep turn hmem c')
  have hclosed₁ : (turn.asleep c').isConnected = false :=
    (hasleep c').connected.trans (hconnected.trans hclosed)
  refine ⟨hclosed, ?_⟩
  rcases h.idle.reconnect_ok resume_connected hclosed₁ hreconnect with
    ⟨-, hfailed⟩ | ⟨c₃, -, hresumed⟩
  · exact (hbefore.trans hfailed).trans (h.trying turn hmem c'')
  · have hopen : c''.isConnected = true := (resume_connected hresumed).2
    exact Bool.noConfusion ((hclosed₂.symm.trans (htrying c'').connected).trans hopen)

/-- The same of the loop, by induction on its turns. -/
theorem loop_passive {left : Bool} {c c' : Client κ}
    (hs : (owner notify).retry.loop turns c = .ok left c') (hclosed : c'.isConnected = false) :
    Passive c c' :=
  Retry.loop_invariant (I := fun c' => c'.isConnected = false → Passive c c')
    (fun turn hmem _ _ _ hI ht hclosed₂ => by
      obtain ⟨hclosed₁, hturn⟩ := h.turn_passive hmem ht hclosed₂
      exact (hI hclosed₁).trans hturn)
    (fun _ => .refl c) hs hclosed

/-- The end of the handler, without a connection, hands over what waits. -/
theorem finishReconnection_handed (hs : (owner notify).finishReconnection c = .ok ⟨⟩ c')
    (hclosed : c.isConnected = false) :
    c'.commands = [] ∧ c'.failureThreads.flatten = c.owed ∧ c'.pushed = c.pushed := by
  unfold Owner.finishReconnection at hs
  rw [get_bind] at hs
  have hget : ((owner notify).session.get c).isConnected = false := hclosed
  rw [hget, Bool.not_false, if_pos rfl] at hs
  obtain ⟨⟨⟩, c₁, hgiveUp, hs⟩ := bind_eq_ok hs
  cases hgiveUp
  obtain ⟨⟨⟩, c₂, hstopped, hs⟩ := bind_eq_ok hs
  cases hs
  obtain ⟨-, htold⟩ := h.idle.notifyState_ok (by decide) hstopped
  obtain ⟨hnone, hhanded, hpushed⟩ := clearCallbacks_handed c
  have hcommands := htold.commands hnone
  refine ⟨hcommands, ?_, htold.pushed.trans hpushed⟩
  have howed := htold.owed
  unfold owed at howed
  rw [hcommands, hnone, List.append_nil, List.append_nil] at howed
  exact howed.trans hhanded

/-! ## How an episode ends -/

/-- With a limit, the calls of `reconnect` are no more than it allows. -/
theorem length_reconnectCalls_le (hlimit : c.maxReconnects ≠ -1) :
    ((owner notify).reconnectCalls others turns c).length ≤ c.maxReconnects.toNat := by
  cases hs : (owner notify).notifyState .dropped
      ((owner notify).session.update beginReconnection c) with
  | error e c₁ =>
    unfold Owner.reconnectCalls
    rw [hs]
    exact Nat.zero_le _
  | ok u c₁ =>
    rw [Owner.reconnectCalls_ok hs]
    have hbound := Retry.length_made_le (attemptsLeft_of_again hlimit)
      (fun turn hmem _ _ _ => h.aloof.turn_taken hlimit (h.alone turn hmem))
      (h.begun hs).1.maxReconnects
    exact hbound.trans (Nat.le_of_eq (h.attemptsLeft_begun hs))

/-- With a limit, and as many turns, the handler is left. -/
theorem episode_left (hidle : c.reconnecting = false) (hlimit : c.maxReconnects ≠ -1)
    (hturns : c.maxReconnects.toNat ≤ turns.length) :
    value ((owner notify).episode others turns) c ≠ some false := by
  intro hvalue
  obtain ⟨c₁, c₂, hs, hloop, -⟩ := Owner.episode_ok hidle (eq_ok_of_value hvalue)
  refine Retry.loop_left (attemptsLeft_of_again hlimit)
    (fun turn hmem _ _ _ => h.aloof.turn_taken hlimit (h.alone turn hmem))
    (h.begun hs).1.maxReconnects ?_ (value_ok hloop)
  exact (Nat.le_of_eq (h.attemptsLeft_begun hs)).trans hturns

/-- An episode ends connected, or with every pending command handed over. -/
theorem episode_exit (hidle : c.reconnecting = false)
    (hs : (owner notify).episode others turns c = .ok true c') :
    c'.reconnecting = false ∧ (c'.isConnected = true ∨ c'.commands = [] ∧
      ∃ sent, c'.failureThreads.flatten = c.owed ++ sent ∧ c'.pushed = c.pushed ++ sent) := by
  obtain ⟨c₁, c₂, hdropped, hloop, hfinish⟩ := Owner.episode_ok hidle hs
  have hheard := h.aloof.finishReconnection_heard (hfinish rfl)
  refine ⟨hheard.reconnecting, ?_⟩
  cases hconnected : c₂.isConnected with
  | true => exact .inl (hheard.connected.trans hconnected)
  | false =>
    obtain ⟨sent, howed, hpushed⟩ :=
      (h.begun hdropped).2.trans (h.loop_passive hloop hconnected).queues
    obtain ⟨hnone, hhanded, hkept⟩ := h.finishReconnection_handed (hfinish rfl) hconnected
    exact .inr ⟨hnone, sent, hhanded.trans howed, hkept.trans hpushed⟩

end Harmless

/-- No attempt after one that succeeded: the loop asks first. -/
theorem last_of_connected {pre post : List (Retry.Made (Client κ) (Turn (Client κ)))}
    {m : Retry.Made (Client κ) (Turn (Client κ))}
    (hcalls : (owner notify).reconnectCalls others turns c = pre ++ m :: post)
    (hopen : m.after.isConnected = true) : post = [] := by
  unfold Owner.reconnectCalls at hcalls
  split at hcalls
  · exact Retry.last_of_made hcalls (shouldReconnect_of_connected hopen)
  · exact absurd hcalls (by simp)

/-- The callback is called before a sleep, if there is one and the callback is set. -/
theorem after_sleep (c : Client κ) : after (owner notify).sleepBeforeNextReconnectAttempt c =
    if 0 < c.reconnectIntervalMsecs ∧ c.connectCallback = true then
      after (notify c.sleeping) (session.update (·.record c.sleeping) c)
    else c := by
  have hget : (owner notify).session.get c = c.toSession := rfl
  unfold Owner.sleepBeforeNextReconnectAttempt Owner.notifyState Owner.callConnectCallback
  rw [after_get_bind, hget]
  by_cases hsome : 0 < c.reconnectIntervalMsecs
  · rw [if_neg (Nat.not_le.mpr hsome), after_get_bind, after_get_bind, hget]
    cases hset : c.connectCallback with
    | true =>
      rw [if_pos rfl, if_pos ⟨hsome, rfl⟩, after_modify_bind]
      rfl
    | false =>
      rw [if_neg Bool.false_ne_true, if_neg fun h => Bool.false_ne_true h.2]
      rfl
  · rw [if_pos (Nat.not_lt.mp hsome), if_neg fun h => hsome h.1]
    rfl

/-- The flag is not set when `reconnect` is called, if and only if it was not set meanwhile. -/
theorem cancel_iff {turn : Turn (Client κ)} (halone : (owner notify).TurnAlone turn)
    {c₁ : Client κ} (hpause : (owner notify).retry.pause turn c = .ok ⟨⟩ c₁)
    (hcancel : c.cancel = false) : c₁.cancel = false ↔ Uncancelled notify turn c := by
  obtain ⟨⟨⟩, told, hsleep, hasleep⟩ := bind_eq_ok hpause
  cases hasleep
  have htold : told = _ := (after_ok hsleep).symm.trans (after_sleep c)
  constructor
  · intro hc₁
    -- nothing clears m_cancel, so it was not set when the callback returned
    have hkept : told.cancel = false := by
      by_contra hset
      have hset' := ((halone.1 told).cancel (Bool.eq_true_of_not_eq_false hset))
      exact Bool.noConfusion (hc₁.symm.trans hset')
    refine ⟨fun hsome hset => ?_, ?_⟩
    · rw [if_pos ⟨hsome, hset⟩] at htold
      rw [← htold, hkept, hcancel]
    · rw [after_ok hsleep]
      exact hc₁.trans hkept.symm
  · intro huncancelled
    have hthreads := huncancelled.threads
    rw [after_ok hsleep] at hthreads
    refine hthreads.trans ?_
    rw [htold]
    split
    · next h => exact (huncancelled.callback h.1 h.2).trans hcancel
    · exact hcancel

/-- The same of each turn that the handler begins. -/
theorem Harmless.cancel_iff (h : Harmless notify others turns) :
    ∀ m ∈ (owner notify).reconnectCalls others turns c,
      m.before.cancel = false ↔ Uncancelled notify m.turn m.asked := by
  unfold Owner.reconnectCalls
  split
  · exact Retry.forall_made (I := fun _ => True)
      (P := fun m => m.before.cancel = false ↔ Uncancelled notify m.turn m.asked)
      (fun turn hmem _ _ _ hagain hpause =>
        Client.cancel_iff (h.alone turn hmem) hpause (shouldReconnect_iff.mp hagain).2.1)
      (fun _ _ _ _ _ _ _ => trivial) trivial
  · exact List.forall_mem_nil _

/-- An episode is bounded and resolves every pending command, if and only if nobody cancels while it
sleeps before an attempt: that attempt is made all the same. -/
theorem resolves_iff (notify : Notification → EStateM Fault (Client κ) Unit)
    (others : Client κ → Client κ) (turns : List (Turn (Client κ)))
    (h : Harmless notify others turns) (c : Client κ) (hidle : c.reconnecting = false) :
    Resolves notify others turns c ↔ SleepsThrough notify others turns c := by
  constructor
  · exact fun hresolves m hmem => (h.cancel_iff m hmem).mp (hresolves.cancelled m hmem)
  · intro hsleeps
    refine ⟨h.length_reconnectCalls_le, h.episode_left hidle, fun _ _ _ => last_of_connected, ?_,
      fun _ => h.episode_exit hidle⟩
    exact fun m hmem => (h.cancel_iff m hmem).mpr (hsleeps m hmem)

/-- A client with a command that waits, and one attempt to make after a sleep. -/
def strandedClient : Client Unit :=
  { connectCallback := true, maxReconnects := 1, reconnectIntervalMsecs := 5,
    commands := [⟨[ascii "GET", ascii "k"], none⟩], pushed := [⟨[ascii "GET", ascii "k"], none⟩] }

/-- The server refuses the attempt. -/
def refusedTurn : Turn (Client Unit) :=
  { attempt := { accepted := false } }

/-- And another thread calls `cancel_reconnect` while the handler sleeps before it. -/
def cancelledTurn : Turn (Client Unit) :=
  { refusedTurn with asleep := session.update Session.cancelReconnect }

theorem harmless_silent {turns : List (Turn (Client κ))}
    (halone : ∀ turn ∈ turns, (owner silent).TurnAlone turn)
    (hpassive : ∀ turn ∈ turns, ∀ c, Passive c (turn.asleep c) ∧ Passive c (turn.trying c)) :
    Harmless silent id turns where
  callback _ _ := .refl _
  dropped _ _ c := (Passive.refl c).queues
  locked _ _ c := .refl c
  threads _ := .refl _
  queued c := (Passive.refl c).queues
  alone := halone
  asleep turn hmem c := (hpassive turn hmem c).1
  trying turn hmem c := (hpassive turn hmem c).2

theorem resolves_refused : Resolves silent id [refusedTurn] strandedClient := by
  have hharmless : Harmless silent id [refusedTurn] :=
    harmless_silent (List.forall_mem_singleton.mpr ⟨fun _ => .refl _, fun _ => .refl _⟩)
      (List.forall_mem_singleton.mpr fun c => ⟨.refl c, .refl c⟩)
  refine (resolves_iff silent id [refusedTurn] hharmless strandedClient rfl).mpr ?_
  intro m hm
  rcases List.mem_singleton.mp hm with rfl
  exact ⟨fun _ _ => rfl, rfl⟩

/-- The attempt is made after `cancel_reconnect`. -/
theorem not_resolves : Harmless silent id [cancelledTurn] ∧
    ¬ Resolves silent id [cancelledTurn] strandedClient := by
  constructor
  · refine harmless_silent (List.forall_mem_singleton.mpr ⟨fun c => ?_, fun _ => .refl _⟩)
      (List.forall_mem_singleton.mpr fun c => ⟨passive_session rfl, .refl c⟩)
    exact ⟨⟨rfl, rfl, rfl, rfl, rfl, rfl, fun _ => rfl, (Heard.refl c.toSession).states⟩, rfl⟩
  · intro h
    have hcancelled := h.cancelled
    revert hcancelled
    decide

end Client

end CppRedis
