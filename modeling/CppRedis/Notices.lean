import CppRedis.Episodes

/-!
# What the connect callback is told of an episode

The states that the connect callback is told during one disconnection handling of a client or of a
subscriber, against one report for each attempt. After a connection that succeeds both `connect` and
`reconnect` tell it `ok`.

* `Owner.report`: what an attempt is to be reported as.
* `episode_told`: what the callback is told.
* `wellNotified_iff`: the reports are what the callback is told, if and only if no attempt of the
  episode succeeds.
-/

namespace CppRedis

open Text Procedure Session

/-! ## Reports -/

/-- How an attempt ends. -/
inductive Outcome
  | lookupFailed
  | failed
  | succeeded
deriving DecidableEq, Repr

/-- What an attempt with this end is to be reported as. -/
def Outcome.states : Outcome → List ConnectState
  | .lookupFailed => [.lookupFailed]
  | .failed => [.start, .failed]
  | .succeeded => [.start, .ok]

/-- What the connect callback is told of it. -/
def Outcome.told : Outcome → List ConnectState
  | .lookupFailed => [.lookupFailed]
  | .failed => [.start, .failed]
  | .succeeded => [.start, .ok, .ok]

/-- How an attempt ends: as the lookup of the master, where there is one to make, and the server
have it. -/
def Session.outcome (t : Session) (a : Attempt) : Outcome :=
  if t.findsMaster a.lookup then if a.accepted then .succeeded else .failed else .lookupFailed

theorem Outcome.length_told (outcome : Outcome) :
    outcome.told.length = outcome.states.length + if outcome = .succeeded then 1 else 0 := by
  cases outcome with
  | lookupFailed => rfl
  | failed => rfl
  | succeeded => rfl

theorem Outcome.told_eq {outcome : Outcome} (h : outcome ≠ .succeeded) :
    outcome.told = outcome.states := by
  cases outcome with
  | lookupFailed => rfl
  | failed => rfl
  | succeeded => exact absurd rfl h

namespace Owner

variable {σ : Type} (o : Owner σ)

/-- How a call of `reconnect` ends. -/
def outcome (m : Retry.Made σ (Turn σ)) : Outcome :=
  (o.session.get m.before).outcome m.turn.attempt

/-- What comes before an attempt: the handler sleeps, if the interval is positive. -/
def sleeping (m : Retry.Made σ (Turn σ)) : List ConnectState :=
  if 0 < (o.session.get m.asked).reconnectIntervalMsecs then [.sleeping] else []

/-- The report of an attempt. -/
def report (m : Retry.Made σ (Turn σ)) : List ConnectState :=
  o.sleeping m ++ (o.outcome m).states

/-- What the connect callback is told of an attempt. -/
def saysOf (m : Retry.Made σ (Turn σ)) : List ConnectState :=
  o.sleeping m ++ (o.outcome m).told

/-- The states that the connect callback is told from `s` to `s'`: that the connection was dropped,
then one report for each attempt, none after one that succeeded, and at last that the handler has
stopped, if it ends without a connection. -/
structure WellNotified (others : σ → σ) (turns : List (Turn σ)) (s s' : σ) : Prop where
  states : (o.session.get s').states = (o.session.get s).states ++ ([.dropped] ++
    (o.reconnectCalls others turns s).flatMap o.report ++
      if (o.session.get s').isConnected then [] else [.stopped])
  last : ∀ pre m post, o.reconnectCalls others turns s = pre ++ m :: post →
    o.outcome m = .succeeded → post = []

variable {o}

/-- What is told of the attempts is what is to be reported, unless one of them succeeds: then it is
one state too many. -/
theorem flatMap_saysOf_iff (calls : List (Retry.Made σ (Turn σ))) :
    calls.flatMap o.saysOf = calls.flatMap o.report ↔ ∀ m ∈ calls, o.outcome m ≠ .succeeded := by
  constructor
  · intro heq
    have hlength : (calls.flatMap o.saysOf).length =
        (calls.flatMap o.report).length + calls.countP (o.outcome · = .succeeded) := by
      clear heq
      induction calls with
      | nil => rfl
      | cons m calls ih =>
        rw [List.flatMap_cons, List.flatMap_cons, List.length_append, List.length_append, ih, saysOf,
          report, List.length_append, List.length_append, Outcome.length_told, List.countP_cons]
        simp only [decide_eq_true_eq]
        omega
    rw [heq] at hlength
    have hnone : calls.countP (o.outcome · = .succeeded) = 0 := Nat.left_eq_add.mp hlength
    exact fun m hm => by simpa using List.countP_eq_zero.mp hnone m hm
  · intro hnone
    refine List.flatMap_congr fun m hm => ?_
    rw [saysOf, report, Outcome.told_eq (hnone m hm)]

section

variable (h : Aloof o) (hanswers : o.Answers)
include h hanswers

/-- A turn tells the callback what its attempt does, and ends with a connection if and only if the
attempt succeeds. -/
theorem Aloof.turn_told {turn : Turn σ} {s s₁ s₂ : σ} (hturn : o.TurnAlone turn)
    (ht : o.retry.Turn turn s s₁ s₂) :
    Told (o.saysOf ⟨turn, s, s₁, s₂⟩) (o.session.get s).countAttempt (o.session.get s₂) ∧
      ((o.session.get s₂).isConnected = true ↔ o.outcome ⟨turn, s, s₁, s₂⟩ = .succeeded) := by
  obtain ⟨hclosed, ⟨s', hsleep, rfl⟩, s'', hreconnect, rfl⟩ := turn_parts ht
  have hbefore := (h.sleep_ok hsleep).trans_nil (hturn.1 s')
  have hslept := hbefore.toTold.countAttempt
  have hclosed₁ := hbefore.connected.trans hclosed
  have hafter := hturn.2 s''
  generalize turn.asleep s' = s₁ at *
  rcases h.reconnect_told hclosed₁ hreconnect with
    ⟨hfound, hheard⟩ | ⟨hfound, hheard, hrefused⟩ | ⟨hfound, haccepted, hopen, htold⟩
  · have houtcome : o.outcome ⟨turn, s, s₁, turn.trying s''⟩ = .lookupFailed :=
      if_neg (Bool.eq_false_iff.mp hfound)
    have hstill := hafter.connected.trans (hheard.connected.trans hclosed₁)
    rw [saysOf, houtcome, hstill]
    exact ⟨hslept.trans (hheard.trans_nil hafter).toTold, by simp⟩
  · have houtcome : o.outcome ⟨turn, s, s₁, turn.trying s''⟩ = .failed :=
      (if_pos hfound).trans (if_neg (Bool.eq_false_iff.mp (hrefused hanswers)))
    have hstill := hafter.connected.trans (hheard.connected.trans hclosed₁)
    rw [saysOf, houtcome, hstill]
    exact ⟨hslept.trans (hheard.trans_nil hafter).toTold, by simp⟩
  · have houtcome : o.outcome ⟨turn, s, s₁, turn.trying s''⟩ = .succeeded :=
      (if_pos hfound).trans (if_pos haccepted)
    rw [saysOf, houtcome, hafter.connected, hopen]
    exact ⟨hslept.trans (htold.trans_nil hafter.toTold), by simp⟩

variable {others : σ → σ} (hothers : o.LeavesAlone others) {turns : List (Turn σ)}
  (hturns : ∀ turn ∈ turns, o.TurnAlone turn) {s s' : σ}
  (hset : (o.session.get s).connectCallback = true)
include hturns

/-- What the loop tells the callback. -/
theorem Aloof.loop_told {left : Bool} (hset : (o.session.get s).connectCallback = true)
    (hs : o.retry.loop turns s = .ok left s') :
    (o.session.get s').states =
        (o.session.get s).states ++ (o.retry.made turns s).flatMap o.saysOf ∧
      (o.session.get s').connectCallback = true := by
  have hstep : ∀ turn ∈ turns, ∀ s s₁ s₂, (o.session.get s).connectCallback = true →
      o.retry.Turn turn s s₁ s₂ → (o.session.get s₂).connectCallback = true ∧
        (o.session.get s₂).states = (o.session.get s).states ++ o.saysOf ⟨turn, s, s₁, s₂⟩ := by
    intro turn hmem s s₁ s₂ hset ht
    have htold := (h.turn_told hanswers (hturns turn hmem) ht).1
    have hset' : (o.session.get s).countAttempt.connectCallback = true := hset
    refine ⟨htold.connectCallback.trans hset, ?_⟩
    rw [htold.states, if_pos hset']
    rfl
  refine ⟨Retry.loop_log hstep hset hs, ?_⟩
  exact Retry.loop_invariant (I := fun s => (o.session.get s).connectCallback = true)
    (fun turn hmem s s₁ s₂ hset ht => (hstep turn hmem s s₁ s₂ hset ht).1) hset hs

/-- An attempt that succeeds is the last one of the loop. -/
theorem Aloof.last_succeeded {left : Bool} (hs : o.retry.loop turns s = .ok left s')
    {pre post : List (Retry.Made σ (Turn σ))} {m : Retry.Made σ (Turn σ)}
    (hmade : o.retry.made turns s = pre ++ m :: post) (hm : o.outcome m = .succeeded) :
    post = [] := by
  have hmem : m ∈ o.retry.made turns s := by
    rw [hmade]
    exact List.mem_append_right _ List.mem_cons_self
  obtain ⟨hturn, ht⟩ := Retry.turn_of_made hs m hmem
  have hopen := (h.turn_told hanswers (hturns _ hturn) ht).2.mpr hm
  exact Retry.last_of_made hmade (shouldReconnect_of_connected hopen)

/-- What the handler tells the callback, from its first notification to its last. -/
theorem Aloof.episode_told {others : σ → σ} (hothers : o.LeavesAlone others)
    (hset : (o.session.get s).connectCallback = true)
    (hidle : (o.session.get s).reconnecting = false) (hs : o.episode others turns s = .ok true s') :
    (o.session.get s').states = (o.session.get s).states ++ ([.dropped] ++
        (o.reconnectCalls others turns s).flatMap o.saysOf ++
          if (o.session.get s').isConnected then [] else [.stopped]) ∧
      ∀ pre m post, o.reconnectCalls others turns s = pre ++ m :: post →
        o.outcome m = .succeeded → post = [] := by
  obtain ⟨s₁, s₂, hdropped, hloop, hfinish⟩ := episode_ok hidle hs
  have hbegun := (h.notifyState_ok hdropped).trans_nil (hothers s₁)
  rw [get_update] at hbegun
  have hset₁ : (o.session.get (others s₁)).connectCallback = true :=
    hbegun.connectCallback.trans hset
  obtain ⟨hstates, hset₂⟩ := h.loop_told hanswers hturns hset₁ hloop
  have hstart : (o.session.get (others s₁)).states = (o.session.get s).states ++ [.dropped] := by
    have hset₀ : (o.session.get s).beginReconnection.connectCallback = true := hset
    rw [hbegun.states, if_pos hset₀]
    rfl
  rw [reconnectCalls_ok hdropped]
  refine ⟨?_, fun pre m post hmade hm => h.last_succeeded hanswers hturns hloop hmade hm⟩
  have hfinished := h.finishReconnection_heard (hfinish rfl)
  have hconnected : (o.session.get s').isConnected = (o.session.get s₂).isConnected :=
    hfinished.connected
  have hset₃ : (o.session.get s₂).endReconnection.connectCallback = true := hset₂
  rw [hfinished.states, if_pos hset₃, hconnected]
  show (o.session.get s₂).states ++ _ = _
  rw [hstates, hstart]
  simp only [List.append_assoc]

end

end Owner

/-! ## One report for each attempt -/

/-- The callback is told what the reports say, if and only if no attempt of the handling succeeds:
of one that does, it is told twice. -/
theorem wellNotified_iff {κ : Type} (side : Side)
    (notify : Notification → EStateM Fault (side.State κ) Unit)
    (hnotify : ∀ n, (side.owner notify).LeavesAlone (after (notify n)))
    (hanswers : (side.owner notify).Answers) (others : side.State κ → side.State κ)
    (hothers : (side.owner notify).LeavesAlone others) (turns : List (Turn (side.State κ)))
    (hturns : ∀ turn ∈ turns, (side.owner notify).TurnAlone turn) (s s' : side.State κ)
    (hset : ((side.owner notify).session.get s).connectCallback = true)
    (hidle : ((side.owner notify).session.get s).reconnecting = false)
    (hs : (side.owner notify).episode others turns s = .ok true s') :
    (side.owner notify).WellNotified others turns s s' ↔
      ∀ m ∈ (side.owner notify).reconnectCalls others turns s,
        (side.owner notify).outcome m ≠ .succeeded := by
  have haloof : (side.owner notify).Aloof := Side.aloof hnotify
  obtain ⟨hstates, hlast⟩ := haloof.episode_told hanswers hturns hothers hset hidle hs
  rw [← Owner.flatMap_saysOf_iff]
  constructor
  · intro hwell
    have heq := hstates.symm.trans hwell.states
    exact List.append_cancel_left (List.append_cancel_right (List.append_cancel_left heq))
  · intro heq
    refine ⟨?_, hlast⟩
    rw [hstates, heq]

/-- A client with a connect callback that has lost its connection. -/
def lostClient : Client Unit :=
  { connectCallback := true, maxReconnects := 2, reconnectIntervalMsecs := 5 }

/-- The server refuses both attempts. -/
def refusedTurns : List (Turn (Client Unit)) :=
  [{ attempt := { accepted := false } }, { attempt := { accepted := false } }]

theorem wellNotified_refused :
    (Client.owner Client.silent).WellNotified id refusedTurns lostClient
      (after ((Client.owner Client.silent).episode id refusedTurns) lostClient) := by
  have hleaves (n : Notification) :
      (Client.owner Client.silent).LeavesAlone (after (@Client.silent Unit n)) :=
    fun _ => .refl _
  have hanswers : (Client.owner (@Client.silent Unit)).Answers := fun _ c => ⟨⟨⟩, c, rfl⟩
  have hturns : ∀ turn ∈ refusedTurns, (Client.owner Client.silent).TurnAlone turn := by
    intro turn hmem
    rcases List.mem_pair.mp hmem with rfl | rfl
    · exact ⟨fun _ => .refl _, fun _ => .refl _⟩
    · exact ⟨fun _ => .refl _, fun _ => .refl _⟩
  have hreturns : (Client.owner Client.silent).episode id refusedTurns lostClient =
      .ok true (after ((Client.owner Client.silent).episode id refusedTurns) lostClient) :=
    eq_ok_of_value (by decide +kernel)
  have hiff := wellNotified_iff .client Client.silent hleaves hanswers id (fun _ => .refl _)
    refusedTurns hturns lostClient _ rfl rfl hreturns
  refine hiff.mpr ?_
  intro m hm
  rcases List.mem_cons.mp hm with rfl | hm
  · decide
  · rcases List.mem_singleton.mp hm with rfl
    decide

/-- The server accepts the first attempt: after `dropped`, `sleeping` and `start` the callback is
told `ok` two times. -/
theorem not_wellNotified :
    (Client.owner Client.silent).episode id [{ attempt := { accepted := true } }] lostClient =
        .ok true (after ((Client.owner Client.silent).episode id
          [{ attempt := { accepted := true } }]) lostClient) ∧
      ¬ (Client.owner Client.silent).WellNotified id [{ attempt := { accepted := true } }] lostClient
        (after ((Client.owner Client.silent).episode id [{ attempt := { accepted := true } }])
          lostClient) := by
  refine ⟨eq_ok_of_value (by decide), fun h => ?_⟩
  have hstates := h.states
  revert hstates
  decide

end CppRedis
