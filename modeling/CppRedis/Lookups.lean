import CppRedis.Failover

/-!
# One lookup after the other

The session of a client or a subscriber takes how a lookup of its master ends as an input. Here
that input is what its sentinel does: a sentinel on which nothing but lookups is called is idle
between them, however many there were, so that no lookup sees anything of an earlier one.

* `Idle`: what a sentinel is between two lookups.
* `lookupOf`: how a lookup ends, from the sentinels that are reachable and the reply of the one
  that is asked.
* `getMasterAddrByName_idle`: the lookup of an idle sentinel ends so, and leaves it idle again.
* `lookups_refine`: the lookups of a session are those of its sentinel, in any sequence.
-/

namespace CppRedis

open Text Procedure

open SentinelClient (endpointOf)

/-! ## How a lookup ends -/

/-- The reply is no array, or it starts with two strings, the second of which `std::stoi` takes
for a number. The callback of the lookup returns then. -/
def Legible (reply : Reply) : Prop :=
  reply.isArray = false ∨ ∃ host text v, MasterQuery.Strings reply host text ∧ stoi text = .ok v

/-- The address that the callback of the lookup leaves in new variables. -/
def addressOf (reply : Reply) : MasterAddr :=
  after (lookupCallback reply) {}

theorem lookupCallback_legible {reply : Reply} (h : Legible reply) :
    lookupCallback reply {} = .ok () (addressOf reply) := by
  unfold addressOf
  rcases h with harray | ⟨host, text, v, hstrings, hv⟩
  · rw [after_ok (MasterQuery.lookupCallback_other harray)]
    exact MasterQuery.lookupCallback_other harray
  · rw [after_ok (MasterQuery.lookupCallback_ok hstrings hv)]
    exact MasterQuery.lookupCallback_ok hstrings hv

/-- Whether any of the sentinels accepts. -/
def anyReachable : List SentinelDef → List Bool → Bool
  | [], _ => false
  | _ :: rest, reachable => reachable.head?.getD false || anyReachable rest reachable.tail

/-- How a lookup ends, if the sentinel that is asked gives this reply. -/
def lookupOf (sentinels : List SentinelDef) (reachable : List Bool) (reply : Reply) : Lookup :=
  if anyReachable sentinels reachable then .found (addressOf reply).host (addressOf reply).port
  else .notFound

/-! ## An idle sentinel -/

namespace SentinelClient

variable {κ : Type} {s : SentinelClient κ}

/-- Not connected, with nothing to send, nothing to wait for and no callback running. -/
structure Idle (s : SentinelClient κ) : Prop where
  closed : s.client.client.connected = false
  buffer : s.client.buffer = []
  callbacks : s.callbacks = []
  running : s.callbacksRunning = 0

theorem Idle.refuse_disconnect (h : Idle s) (endpoint : Endpoint) :
    Idle (connection.update (fun r => r.refuse endpoint) s).disconnect :=
  ⟨rfl, rfl, h.callbacks, h.running⟩

/-- The loop of `connect_sentinel` leaves the sentinel idle, but for the connection that it has
opened. By induction on the sentinels, each of which refuses or ends the loop. -/
theorem trySentinels_idle (sentinels : List SentinelDef) (reachable : List Bool) (h : Idle s) :
    ∃ s', trySentinels sentinels reachable s = .ok (!anyReachable sentinels reachable) s' ∧
      s'.sentinels = s.sentinels ∧
      if anyReachable sentinels reachable then
        s'.client.client.connected = true ∧ s'.callbacks = [] ∧ s'.callbacksRunning = 0
      else Idle s' := by
  induction sentinels generalizing reachable s with
  | nil => exact ⟨s, rfl, rfl, h⟩
  | cons it sentinels ih =>
    cases hreach : reachable.head?.getD false with
    | true =>
      refine ⟨connection.update (fun r => r.accept (endpointOf it) true true) s, ?_, rfl, ?_⟩
      · rw [anyReachable, hreach, Bool.true_or]
        exact trySentinels_accepted h.closed hreach
      · rw [anyReachable, hreach, Bool.true_or, if_pos rfl]
        exact ⟨rfl, h.callbacks, h.running⟩
    | false =>
      obtain ⟨s', hloop, hsame, hidle⟩ := ih reachable.tail (h.refuse_disconnect (endpointOf it))
      rw [anyReachable, hreach, Bool.false_or]
      refine ⟨s', ?_, hsame, hidle⟩
      rw [trySentinels_refused (.inr hreach), h.closed, if_neg Bool.false_ne_true, hloop]

theorem connectSentinel_idle (reachable : List Bool) (h : Idle s) (hne : s.sentinels ≠ []) :
    (after (connectSentinel false reachable) s).sentinels = s.sentinels ∧
      if anyReachable s.sentinels reachable then
        (after (connectSentinel false reachable) s).client.client.connected = true ∧
          (after (connectSentinel false reachable) s).callbacks = [] ∧
          (after (connectSentinel false reachable) s).callbacksRunning = 0
      else Idle (after (connectSentinel false reachable) s) := by
  obtain ⟨s', hloop, hsame, hidle⟩ := trySentinels_idle s.sentinels reachable h
  have hsome : s.sentinels.isEmpty = false :=
    Bool.eq_false_iff.mpr fun h => hne (List.isEmpty_iff.mp h)
  have hconnect : connectSentinel false reachable s =
      if anyReachable s.sentinels reachable then .ok () { s' with disconnectHandler := false }
      else .error (.redisError "Unable to connect to any sentinels") s' := by
    unfold connectSentinel
    rw [get_bind, hsome, if_neg Bool.false_ne_true]
    beta_reduce
    rw [get_bind, bind_ok hloop]
    cases anyReachable s.sentinels reachable <;> rfl
  unfold after
  rw [hconnect]
  cases hany : anyReachable s.sentinels reachable with
  | true =>
    rw [hany, if_pos rfl] at hidle
    exact ⟨hsame, hidle⟩
  | false =>
    rw [hany, if_neg Bool.false_ne_true] at hidle
    exact ⟨hsame, hidle⟩

end SentinelClient

/-! ## A lookup -/

namespace MasterQuery

variable {κ : Type} {q : MasterQuery κ} {name : Bytes} {reachable : List Bool} {reply : Reply}

/-- A query that was written is answered, and the sentinel is idle again. -/
theorem await_idle {s : SentinelClient (SentinelCallback κ)} (hcallbacks : s.callbacks = [])
    (hrunning : s.callbacksRunning = 0) (name : Bytes) (h : Legible reply) :
    ∃ s', await true [.reply { reply := reply }] (waiting name s) =
        .ok (some ((addressOf reply).port != 0)) ⟨s', addressOf reply⟩ ∧
      s'.sentinels = s.sentinels ∧ s'.Idle := by
  have hwaiting : (waiting name s).sentinel.callbacks = [⟨masterCommand name, some .lookup⟩] := by
    show s.callbacks ++ [_] = _
    rw [hcallbacks]
    rfl
  have hhandle := handleReply_found { reply := reply } hwaiting (lookupCallback_legible h)
  obtain ⟨hempty, hkept⟩ := waited_found reply hwaiting
  have hcount := hkept.trans hrunning
  have hready : ready (⟨((waiting name s).sentinel.answerFront reply).countDown, addressOf reply⟩ :
      MasterQuery κ) = true := ready_iff.mpr ⟨hcount, hempty⟩
  refine ⟨((waiting name s).sentinel.answerFront reply).countDown.disconnect, ?_, rfl, rfl, rfl,
    hempty, hcount⟩
  have hturns : handleTurns [.reply { reply := reply }] (waiting name s) = .ok () _ :=
    (bind_pure_unit _ _).trans hhandle
  unfold await
  rw [bind_ok hturns, get_bind, if_pos hready]
  rfl

/-- The lookup of an idle sentinel: it ends as `lookupOf` says, and the sentinel is idle again. -/
theorem getMasterAddrByName_idle (hidle : q.sentinel.Idle) (hne : q.sentinel.sentinels ≠ [])
    (name : Bytes) (reachable : List Bool) (h : Legible reply) :
    ∃ s' addr, getMasterAddrByName name true reachable [.reply { reply := reply }] q =
        .ok (some (addr.port != 0)) ⟨s', addr⟩ ∧
      s'.sentinels = q.sentinel.sentinels ∧ s'.Idle ∧
      addr = if anyReachable q.sentinel.sentinels reachable then addressOf reply else {} := by
  obtain ⟨hsame, hconnect⟩ := SentinelClient.connectSentinel_idle reachable hidle hne
  have hopen (s : SentinelClient (SentinelCallback κ))
      (hs : after (SentinelClient.connectSentinel false reachable) q.sentinel = s) :
      openLink true reachable q = .ok s.isConnected ⟨s, {}⟩ := openLink_tried hne hs
  generalize after (SentinelClient.connectSentinel false reachable) q.sentinel = s at *
  replace hopen := hopen s rfl
  cases hany : anyReachable q.sentinel.sentinels reachable with
  | true =>
    rw [hany, if_pos rfl] at hconnect
    obtain ⟨hopened, hcallbacks, hrunning⟩ := hconnect
    obtain ⟨s', hawait, hsame', hidle'⟩ := await_idle hcallbacks hrunning name h
    have hconnected : s.isConnected = true := hopened
    rw [hconnected] at hopen
    refine ⟨s', addressOf reply, ?_, hsame'.trans hsame, hidle', rfl⟩
    rw [getMasterAddrByName_sent hopen hconnected, hawait]
  | false =>
    rw [hany, if_neg Bool.false_ne_true] at hconnect
    have hclosed : s.isConnected = false := hconnect.closed
    rw [hclosed] at hopen
    refine ⟨s, {}, ?_, hsame, hconnect, rfl⟩
    unfold getMasterAddrByName
    rw [bind_ok hopen]
    rfl

/-- Without sentinels it throws, and is idle still. -/
theorem getMasterAddrByName_none_registered (hne : q.sentinel.sentinels = []) (name : Bytes)
    (reachable : List Bool) (turns : List (LookupTurn κ)) :
    getMasterAddrByName name true reachable turns q =
      .error (.redisError
        "No sentinels available. Call add_sentinel() before get_master_addr_by_name()")
        ⟨q.sentinel, {}⟩ := by
  have hempty : q.sentinel.sentinels.isEmpty = true := List.isEmpty_iff.mpr hne
  have hopen : openLink true reachable q = .error (.redisError
      "No sentinels available. Call add_sentinel() before get_master_addr_by_name()")
      ⟨q.sentinel, {}⟩ := by
    unfold openLink
    rw [modify_bind]
    simp only [Bool.true_and, if_true]
    rw [get_bind]
    simp only [hempty, if_true]
    rfl
  unfold getMasterAddrByName
  rw [bind_error hopen]

end MasterQuery

/-! ## Sequences -/

/-- What the owner of a session does with its sentinel. -/
inductive Inquiry
  | addSentinel (sentinel : SentinelDef)
  | clearSentinels
  | getMasterAddrByName (name : Bytes) (reachable : List Bool) (reply : Reply)

/-- The reply, if one is asked for, makes the callback of the lookup return. -/
def Inquiry.Legible : Inquiry → Prop
  | .getMasterAddrByName _ _ reply => CppRedis.Legible reply
  | _ => True

/-- How a call was left: with a value, with an exception, or not at all. -/
inductive Left
  | returned (found : Bool)
  | threw (e : Fault)
  | waits
deriving DecidableEq

/-- The calls on the sentinel itself, and how the lookups among them were left. -/
def MasterQuery.ask {κ : Type} : MasterQuery κ → List Inquiry → MasterQuery κ × List Left
  | q, [] => (q, [])
  | q, .addSentinel sentinel :: more =>
    ask { q with sentinel := q.sentinel.addSentinel sentinel } more
  | q, .clearSentinels :: more => ask { q with sentinel := q.sentinel.clearSentinels } more
  | q, .getMasterAddrByName name reachable reply :: more =>
    match q.getMasterAddrByName name true reachable [.reply { reply := reply }] with
    | .ok found q =>
      let (q', left) := ask q more
      (q', (found.elim .waits .returned) :: left)
    | .error e q =>
      let (q', left) := ask q more
      (q', .threw e :: left)

/-- The same calls as a session sees them: a lookup ends as `lookupOf` says. -/
def Session.ask : Session → List Inquiry → Session × List Left
  | s, [] => (s, [])
  | s, .addSentinel sentinel :: more => ask (s.addSentinel sentinel) more
  | s, .clearSentinels :: more => ask s.clearSentinels more
  | s, .getMasterAddrByName _ reachable reply :: more =>
    match s.getMasterAddrByName (lookupOf s.sentinel.sentinels reachable reply) with
    | .ok found s =>
      let (s', left) := ask s more
      (s', .returned found :: left)
    | .error e s =>
      let (s', left) := ask s more
      (s', .threw e :: left)

/-- A session and its sentinel between two calls: they agree on the sentinels and on the address
that was found last, and the sentinel is idle. -/
structure Mirrors {κ : Type} (q : MasterQuery κ) (s : Session) : Prop where
  idle : q.sentinel.Idle
  sentinels : q.sentinel.sentinels = s.sentinel.sentinels
  host : q.addr.host = s.redisServer
  port : q.addr.port = s.redisPort

section Refine

variable {κ : Type} {q : MasterQuery κ} {s : Session}

/-- One lookup: both are left alike. -/
theorem Mirrors.getMasterAddrByName (h : Mirrors q s) (name : Bytes) (reachable : List Bool)
    {reply : Reply} (hreply : Legible reply) :
    (∃ found q' s', q.getMasterAddrByName name true reachable [.reply { reply := reply }] =
        .ok (some found) q' ∧
      s.getMasterAddrByName (lookupOf s.sentinel.sentinels reachable reply) = .ok found s' ∧
      Mirrors q' s') ∨
    ∃ e q' s', q.getMasterAddrByName name true reachable [.reply { reply := reply }] = .error e q' ∧
      s.getMasterAddrByName (lookupOf s.sentinel.sentinels reachable reply) = .error e s' ∧
      Mirrors q' s' := by
  by_cases hne : q.sentinel.sentinels = []
  · -- nobody to ask
    refine .inr ⟨_, _, { s with redisServer := [], redisPort := 0 },
      MasterQuery.getMasterAddrByName_none_registered hne name reachable _, ?_, h.idle, h.sentinels,
      rfl, rfl⟩
    rw [h.sentinels] at hne
    unfold Session.getMasterAddrByName
    exact if_pos (List.isEmpty_iff.mpr hne)
  · obtain ⟨s', addr, hcall, hsame, hidle, haddr⟩ :=
      MasterQuery.getMasterAddrByName_idle h.idle hne name reachable hreply
    have hsome : ¬ s.sentinel.sentinels.isEmpty = true := by
      rw [← h.sentinels]
      exact fun hempty => hne (List.isEmpty_iff.mp hempty)
    refine .inl ⟨_, _, { s with redisServer := addr.host, redisPort := addr.port }, hcall, ?_, hidle,
      hsame.trans h.sentinels, rfl, rfl⟩
    unfold Session.getMasterAddrByName lookupOf
    rw [h.sentinels] at haddr
    rw [haddr]
    cases anyReachable s.sentinel.sentinels reachable with
    | true => exact if_neg hsome
    | false => exact if_neg hsome

/-- In any sequence of calls, whichever sentinels are reachable and whatever the one that is asked
replies: every lookup of the sentinel returns or throws as that of the session does, with the same
address, and leaves an idle sentinel to the next one. By induction on the calls. -/
theorem lookups_refine (h : Mirrors q s) {inquiries : List Inquiry}
    (hlegible : ∀ i ∈ inquiries, i.Legible) :
    (q.ask inquiries).2 = (s.ask inquiries).2 ∧ Mirrors (q.ask inquiries).1 (s.ask inquiries).1 := by
  induction inquiries generalizing q s with
  | nil => exact ⟨rfl, h⟩
  | cons i inquiries ih =>
    obtain ⟨hfirst, hrest⟩ := List.forall_mem_cons.mp hlegible
    cases i with
    | addSentinel sentinel =>
      refine ih ⟨⟨h.idle.closed, h.idle.buffer, h.idle.callbacks, h.idle.running⟩, ?_, h.host, h.port⟩
        hrest
      exact congrArg (· ++ [sentinel]) h.sentinels
    | clearSentinels =>
      exact ih ⟨⟨h.idle.closed, h.idle.buffer, h.idle.callbacks, h.idle.running⟩, rfl, h.host, h.port⟩
        hrest
    | getMasterAddrByName name reachable reply =>
      rcases h.getMasterAddrByName name reachable hfirst with
        ⟨found, q', s', hq, hs, hmirrors⟩ | ⟨e, q', s', hq, hs, hmirrors⟩
      · obtain ⟨hleft, hend⟩ := ih hmirrors hrest
        rw [MasterQuery.ask, Session.ask, hq, hs]
        exact ⟨congrArg (Left.returned found :: ·) hleft, hend⟩
      · obtain ⟨hleft, hend⟩ := ih hmirrors hrest
        rw [MasterQuery.ask, Session.ask, hq, hs]
        exact ⟨congrArg (Left.threw e :: ·) hleft, hend⟩

end Refine

/-- A lookup without a sentinel, one whose first sentinel is down, and one of which the sentinel
knows nothing. -/
def threeLookups : List Inquiry :=
  [.getMasterAddrByName (ascii "m") [] {},
    .addSentinel ⟨ascii "a", 26379, 10⟩, .addSentinel ⟨ascii "b", 26380, 20⟩,
    .getMasterAddrByName (ascii "m") [false, true]
      (MasterQuery.addressReply (ascii "10.0.0.1") (ascii "6379")),
    .getMasterAddrByName (ascii "n") [true] {}]

theorem lookups_refine_three :
    (MasterQuery.ask (⟨{}, {}⟩ : MasterQuery Unit) threeLookups).2 = (Session.ask {} threeLookups).2 ∧
      Mirrors (MasterQuery.ask (⟨{}, {}⟩ : MasterQuery Unit) threeLookups).1
        (Session.ask {} threeLookups).1 := by
  refine lookups_refine ⟨⟨rfl, rfl, rfl, rfl⟩, rfl, rfl, rfl⟩ ?_
  intro i hi
  simp only [threeLookups, List.mem_cons, List.not_mem_nil, or_false] at hi
  rcases hi with rfl | rfl | rfl | rfl | rfl
  · exact .inl rfl
  · exact trivial
  · exact trivial
  · exact .inr ⟨ascii "10.0.0.1", ascii "6379", 6379, ⟨rfl, _, _, [], rfl, rfl, rfl⟩, rfl⟩
  · exact .inl rfl

example : (Session.ask {} threeLookups).2 =
    [.threw (.redisError
      "No sentinels available. Call add_sentinel() before get_master_addr_by_name()"),
      .returned true, .returned false] := by
  decide

end CppRedis
