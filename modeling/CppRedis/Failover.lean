import CppRedis.Masters

/-!
# Which sentinel is asked

`connect_sentinel` dials the registered sentinels in order until one accepts, and closes the socket
after each one that does not; `get_master_addr_by_name` then asks the one that accepted.

* `WatchedSentinel`: a sentinel, its disconnect handler, and a record of what `connect_sentinel`
  does. Without the record it is that of `SentinelClient` (`connectSentinel_projects`).
* `trySentinels_refused`: the loop goes through the sentinels that refuse; `connectSentinel_found` and
  `connectSentinel_none` are how it ends.
* `failover`: what the two functions do for all sentinels, whichever of them are reachable. A
  sentinel is dialled at its own host with its own timeout, and at its port narrowed to 32 bits.
-/

namespace CppRedis

open Text Procedure
open SentinelClient (endpointOf)

/-! ## Watching -/

/-- What `connect_sentinel` does: a call of `m_client.connect` with the members of a sentinel, a call
of `disconnect`, and the write of `m_disconnect_handler`. -/
inductive SentinelStep (η : Type)
  | connect (it : SentinelDef)
  | disconnect
  | setHandler (handler : Option η)
deriving DecidableEq, Repr

/-- A sentinel, its disconnect handler (which may be null), and what was done so far. -/
structure WatchedSentinel (κ η : Type) where
  sentinel : SentinelClient κ
  handler : Option η := none
  steps : List (SentinelStep η) := []

namespace WatchedSentinel

variable {κ η : Type}

/-- The sentinel itself. -/
def inner : Lens (WatchedSentinel κ η) (SentinelClient κ) where
  get w := w.sentinel
  set s w := { w with sentinel := s }
  get_set _ _ := rfl
  set_get _ := rfl

def isConnected (w : WatchedSentinel κ η) : Bool :=
  w.sentinel.isConnected

/-- The connection attempts of the socket. -/
def dialled (w : WatchedSentinel κ η) : List Endpoint :=
  w.sentinel.client.client.dialled

def see (step : SentinelStep η) (w : WatchedSentinel κ η) : WatchedSentinel κ η :=
  { w with steps := w.steps ++ [step] }

/-- `m_client.connect`, with the members of a sentinel. -/
def connect (it : SentinelDef) (accepted : Bool) : EStateM Fault (WatchedSentinel κ η) Unit := do
  modify (see (.connect it))
  inner.zoom (SentinelClient.connection.zoom
    (RedisConnection.connect it.host it.port true true it.timeoutMsecs accepted))

/-- `disconnect`. -/
def disconnect (w : WatchedSentinel κ η) : WatchedSentinel κ η :=
  { w with sentinel := w.sentinel.disconnect, steps := w.steps ++ [.disconnect] }

/-- `m_disconnect_handler = handler`. -/
def setHandler (handler : Option η) (w : WatchedSentinel κ η) : WatchedSentinel κ η :=
  { sentinel := { w.sentinel with disconnectHandler := handler.isSome }
    handler := handler
    steps := w.steps ++ [.setHandler handler] }

/-- The loop of `connect_sentinel`. Returns `not_connected`. -/
def trySentinels : List SentinelDef → List Bool → EStateM Fault (WatchedSentinel κ η) Bool
  | [], _ => pure true
  | it :: rest, reachable => do
    try connect it (reachable.head?.getD false)
    catch e =>
      if let .redisError _ := e then pure () else throw e
    if (← get).isConnected then pure false
    else
      modify disconnect
      trySentinels rest reachable.tail

/-- `connect_sentinel`. -/
def connectSentinel (handler : Option η) (reachable : List Bool) :
    EStateM Fault (WatchedSentinel κ η) Unit := do
  if (← get).sentinel.sentinels.isEmpty then
    throw (.redisError "No sentinels available. Call add_sentinel() before connect_sentinel()")
  if ← trySentinels (← get).sentinel.sentinels reachable then
    throw (.redisError "Unable to connect to any sentinels")
  modify (setHandler handler)

/-! ## The sentinel alone -/

theorem connect_projects (it : SentinelDef) (accepted : Bool) :
    Projects sentinel (connect it accepted : EStateM Fault (WatchedSentinel κ η) Unit)
      (SentinelClient.connection.zoom
        (RedisConnection.connect it.host it.port true true it.timeoutMsecs accepted)) :=
  .modify_bind (fun _ => rfl) (.zoom inner _)

theorem trySentinels_projects (sentinels : List SentinelDef) (reachable : List Bool) :
    Projects sentinel (trySentinels sentinels reachable : EStateM Fault (WatchedSentinel κ η) Bool)
      (SentinelClient.trySentinels sentinels reachable) := by
  induction sentinels generalizing reachable with
  | nil => exact .pure true
  | cons it rest ih =>
    refine .bind (.tryCatch (connect_projects it _) fun e => ?_) fun _ => .get_bind fun w => ?_
    · cases e with
      | redisError what => exact .pure ()
      | _ => exact .throw _
    · exact .ite (.pure false) (.bind (.modify fun _ => rfl) fun _ => ih reachable.tail)

/-- Without the record, `connect_sentinel` is that of the sentinel. -/
theorem connectSentinel_projects (handler : Option η) (reachable : List Bool) :
    Projects sentinel (connectSentinel handler reachable : EStateM Fault (WatchedSentinel κ η) Unit)
      (SentinelClient.connectSentinel handler.isSome reachable) := by
  unfold connectSentinel SentinelClient.connectSentinel
  refine .get_bind fun w => .ite (.throw _) (.get_bind fun w =>
    .bind (trySentinels_projects _ reachable) fun notConnected => ?_)
  cases notConnected with
  | true => exact .throw _
  | false => exact .modify fun _ => rfl

/-! ## The loop -/

/-- What is done about sentinels that refuse. -/
def refusals (refusing : List SentinelDef) : List (SentinelStep η) :=
  refusing.flatMap fun it => [.connect it, .disconnect]

/-- These sentinels were dialled in order, and refused. The first `disconnect` clears the buffer. -/
structure Refused (refusing : List SentinelDef) (w w' : WatchedSentinel κ η) : Prop where
  steps : w'.steps = w.steps ++ refusals refusing
  dialled : w'.dialled = w.dialled ++ refusing.map endpointOf
  connected : w'.isConnected = false
  handler : w'.handler = w.handler
  buffer : w'.sentinel.client.buffer = if refusing.isEmpty then w.sentinel.client.buffer else []

/-- A sentinel was dialled, and accepted. -/
def accept (it : SentinelDef) (w : WatchedSentinel κ η) : WatchedSentinel κ η :=
  { w with
    sentinel := SentinelClient.connection.update (·.accept (endpointOf it) true true) w.sentinel
    steps := w.steps ++ [.connect it] }

section Loop

variable {it : SentinelDef} {rest : List SentinelDef} {reachable : List Bool}
  {w : WatchedSentinel κ η}

theorem trySentinels_refuse (hclosed : w.isConnected = false) :
    ∃ w', Refused [it] w w' ∧
      trySentinels (it :: rest) (false :: reachable) w = trySentinels rest reachable w' := by
  have hconnect : connect it false w = .error (.redisError w.sentinel.client.client.what)
      { w with
        sentinel := SentinelClient.connection.update (·.refuse (endpointOf it)) w.sentinel
        steps := w.steps ++ [.connect it] } := by
    unfold connect
    rw [modify_bind]
    exact inner.zoom_error (SentinelClient.connection.zoom_error
      (RedisConnection.connect_refused it.host it.port true true it.timeoutMsecs (.inr rfl)))
  generalize hrefused : WatchedSentinel.mk _ _ _ = w₁ at hconnect
  have hclosed₁ : w₁.isConnected = false := by
    rw [← hrefused]
    exact hclosed
  refine ⟨w₁.disconnect, ?_, ?_⟩
  · rw [← hrefused]
    refine ⟨?_, rfl, rfl, rfl, rfl⟩
    show w.steps ++ [.connect it] ++ [.disconnect] = _
    rw [List.append_assoc]
    rfl
  · rw [trySentinels]
    refine (bind_ok (Eq.trans (catch_error hconnect _) rfl) _).trans ?_
    rw [get_bind, if_neg (Bool.eq_false_iff.mp hclosed₁)]
    rfl

theorem trySentinels_accept (hclosed : w.isConnected = false) :
    trySentinels (it :: rest) (true :: reachable) w = .ok false (w.accept it) := by
  have hconnect : connect it true w = .ok ⟨⟩ (w.accept it) := by
    unfold connect
    rw [modify_bind]
    exact inner.zoom_ok (SentinelClient.connection.zoom_ok
      (RedisConnection.connect_accepted it.host it.port true true it.timeoutMsecs hclosed))
  rw [trySentinels]
  exact (bind_ok (catch_ok hconnect _) _).trans rfl

/-- Sentinels that refuse are gone through, by induction on them. -/
theorem trySentinels_refused (refusing rest : List SentinelDef) (reachable : List Bool)
    (hclosed : w.isConnected = false) : ∃ w', Refused refusing w w' ∧
      trySentinels (refusing ++ rest) (refusing.map (fun _ => false) ++ reachable) w =
        trySentinels rest reachable w' := by
  induction refusing generalizing w with
  | nil => exact ⟨w, ⟨(List.append_nil _).symm, (List.append_nil _).symm, hclosed, rfl, rfl⟩, rfl⟩
  | cons it refusing ih =>
    obtain ⟨w₁, hfirst, hloop₁⟩ : ∃ w₁, Refused [it] w w₁ ∧ trySentinels (it :: (refusing ++ rest))
        (false :: (refusing.map (fun _ => false) ++ reachable)) w = _ :=
      trySentinels_refuse hclosed
    obtain ⟨w₂, hothers, hloop₂⟩ := ih hfirst.connected
    refine ⟨w₂, ⟨?_, ?_, hothers.connected, hothers.handler.trans hfirst.handler, ?_⟩,
      hloop₁.trans hloop₂⟩
    · rw [hothers.steps, hfirst.steps, List.append_assoc]
      rfl
    · rw [hothers.dialled, hfirst.dialled, List.append_assoc]
      rfl
    · rw [hothers.buffer, hfirst.buffer]
      exact ite_self _

end Loop

/-! ## `connect_sentinel` -/

/-- The sentinels that refuse, and no others. -/
def refuse (refusing : List SentinelDef) : List (SentinelDef × Bool) :=
  refusing.map fun it => (it, false)

theorem map_fst_refuse (refusing : List SentinelDef) : (refuse refusing).map Prod.fst = refusing :=
  (List.map_map ..).trans (List.map_id' refusing)

theorem map_snd_refuse (refusing : List SentinelDef) :
    (refuse refusing).map Prod.snd = refusing.map fun _ => false :=
  List.map_map ..

/-- Whether any of them is reachable: a first one is, or none. -/
theorem hosts_cases (hosts : List (SentinelDef × Bool)) :
    (∃ refusing, hosts = refuse refusing) ∨
      ∃ refusing it rest, hosts = refuse refusing ++ (it, true) :: rest := by
  induction hosts with
  | nil => exact .inl ⟨[], rfl⟩
  | cons host hosts ih =>
    obtain ⟨it, accepted⟩ := host
    cases accepted with
    | true => exact .inr ⟨[], it, hosts, rfl⟩
    | false =>
      rcases ih with ⟨refusing, rfl⟩ | ⟨refusing, first, rest, rfl⟩
      · exact .inl ⟨it :: refusing, rfl⟩
      · exact .inr ⟨it :: refusing, first, rest, rfl⟩

section Connect

variable {hosts : List (SentinelDef × Bool)} {refusing : List SentinelDef} {w : WatchedSentinel κ η}
  (hsentinels : w.sentinel.sentinels = hosts.map Prod.fst) (hclosed : w.isConnected = false)
  (handler : Option η)
include hsentinels

theorem connectSentinel_of_loop {notConnected : Bool} {w' : WatchedSentinel κ η} (hsome : hosts ≠ [])
    (h : trySentinels (hosts.map Prod.fst) (hosts.map Prod.snd) w = .ok notConnected w') :
    connectSentinel handler (hosts.map Prod.snd) w =
      if notConnected then .error (.redisError "Unable to connect to any sentinels") w'
      else .ok ⟨⟩ (w'.setHandler handler) := by
  have hempty : (hosts.map Prod.fst).isEmpty = false := by
    rw [List.isEmpty_eq_false_iff, ne_eq, List.map_eq_nil_iff]
    exact hsome
  unfold connectSentinel
  rw [get_bind, hsentinels, hempty, if_neg Bool.false_ne_true]
  beta_reduce
  rw [get_bind, hsentinels, bind_ok h]
  cases notConnected <;> rfl

include hclosed

/-- One of them is reachable: the first one is kept. -/
theorem connectSentinel_found {it : SentinelDef} {rest : List (SentinelDef × Bool)}
    (hhosts : hosts = refuse refusing ++ (it, true) :: rest) :
    ∃ w', Refused refusing w w' ∧ connectSentinel handler (hosts.map Prod.snd) w =
      .ok ⟨⟩ ((w'.accept it).setHandler handler) := by
  have hsome : hosts ≠ [] := by
    rw [hhosts]
    exact List.append_ne_nil_of_right_ne_nil _ (List.cons_ne_nil _ _)
  obtain ⟨w', hrefused, hloop⟩ := trySentinels_refused refusing (it :: rest.map Prod.fst)
    (true :: rest.map Prod.snd) hclosed
  rw [trySentinels_accept hrefused.connected] at hloop
  refine ⟨w', hrefused, ?_⟩
  refine (connectSentinel_of_loop hsentinels handler hsome ?_).trans (if_neg Bool.false_ne_true)
  rw [hhosts, List.map_append, List.map_append, map_fst_refuse, map_snd_refuse]
  exact hloop

/-- None is. -/
theorem connectSentinel_none (hsome : hosts ≠ []) (hhosts : hosts = refuse refusing) :
    ∃ w', Refused refusing w w' ∧ connectSentinel handler (hosts.map Prod.snd) w =
      .error (.redisError "Unable to connect to any sentinels") w' := by
  obtain ⟨w', hrefused, hloop⟩ := trySentinels_refused refusing [] [] hclosed
  refine ⟨w', hrefused, (connectSentinel_of_loop hsentinels handler hsome ?_).trans (if_pos rfl)⟩
  rw [List.append_nil, List.append_nil] at hloop
  rw [hhosts, map_fst_refuse, map_snd_refuse]
  exact hloop

end Connect

/-- `connect_sentinel` on sentinels of which some are reachable: those before the first reachable one
are dialled in order and closed, then that one is dialled, and at last the handler is replaced. It
throws a `redis_error` if and only if none is reachable, and keeps the handler then. `endpoint` is
where the socket goes that dials a sentinel. -/
structure FailsOver (endpoint : SentinelDef → Endpoint) (hosts : List (SentinelDef × Bool))
    (handler : Option η) (w : WatchedSentinel κ η) : Prop where
  found : ∀ refusing it rest, hosts = refuse refusing ++ (it, true) :: rest →
    ∃ w', connectSentinel handler (hosts.map Prod.snd) w = .ok ⟨⟩ w' ∧
      w'.steps = w.steps ++ (refusals refusing ++ [.connect it, .setHandler handler]) ∧
      w'.dialled = w.dialled ++ (refusing ++ [it]).map endpoint ∧
      w'.isConnected = true ∧ w'.handler = handler
  none : ∀ refusing, hosts = refuse refusing →
    ∃ what w', connectSentinel handler (hosts.map Prod.snd) w = .error (.redisError what) w' ∧
      w'.steps = w.steps ++ refusals refusing ∧
      w'.dialled = w.dialled ++ refusing.map endpoint ∧
      w'.isConnected = false ∧ w'.handler = w.handler
  throws : (∃ what w', connectSentinel handler (hosts.map Prod.snd) w = .error (.redisError what) w') ↔
    ∀ host ∈ hosts, host.2 = false

theorem failsOver {hosts : List (SentinelDef × Bool)} (hsome : hosts ≠ []) {w : WatchedSentinel κ η}
    (hsentinels : w.sentinel.sentinels = hosts.map Prod.fst) (hclosed : w.isConnected = false)
    (handler : Option η) : FailsOver endpointOf hosts handler w where
  found refusing it rest hhosts := by
    obtain ⟨w', hrefused, hconnect⟩ := connectSentinel_found hsentinels hclosed handler hhosts
    refine ⟨_, hconnect, ?_, ?_, rfl, rfl⟩
    · show w'.steps ++ [.connect it] ++ [.setHandler handler] = _
      rw [hrefused.steps, List.append_assoc, List.append_assoc]
      rfl
    · show w'.dialled ++ [endpointOf it] = _
      rw [hrefused.dialled, List.append_assoc, List.map_append]
      rfl
  none refusing hhosts := by
    obtain ⟨w', hrefused, hconnect⟩ := connectSentinel_none hsentinels hclosed handler hsome hhosts
    exact ⟨_, w', hconnect, hrefused.steps, hrefused.dialled, hrefused.connected, hrefused.handler⟩
  throws := by
    rcases hosts_cases hosts with ⟨refusing, hhosts⟩ | ⟨refusing, it, rest, hhosts⟩
    · obtain ⟨w', -, hconnect⟩ := connectSentinel_none hsentinels hclosed handler hsome hhosts
      refine iff_of_true ⟨_, w', hconnect⟩ ?_
      rw [hhosts]
      intro host hmem
      obtain ⟨it, -, rfl⟩ := List.mem_map.mp hmem
      rfl
    · obtain ⟨w', -, hconnect⟩ := connectSentinel_found hsentinels hclosed handler hhosts
      refine iff_of_false ?_ fun hnone => ?_
      · rintro ⟨what, w'', hthrows⟩
        cases hconnect.symm.trans hthrows
      · rw [hhosts] at hnone
        exact Bool.noConfusion (hnone (it, true) (List.mem_append_right _ List.mem_cons_self))

end WatchedSentinel

/-! ## `get_master_addr_by_name` -/

namespace MasterQuery

variable {κ : Type}

/-- `get_master_addr_by_name`, with `autoconnect`, on sentinels of which some are reachable: it
writes its query to the first one that is, or returns false; and when it returns it has
disconnected. -/
structure Asks (endpoint : SentinelDef → Endpoint) (hosts : List (SentinelDef × Bool)) (name : Bytes)
    (q : MasterQuery κ) : Prop where
  found : ∀ refusing it rest, hosts = WatchedSentinel.refuse refusing ++ (it, true) :: rest →
    ∃ s, s.isConnected = true ∧
      s.client.client.dialled =
        q.sentinel.client.client.dialled ++ (refusing ++ [it]).map endpoint ∧
      s.client.client.written = (if refusing.isEmpty then q.sentinel.client.buffer else []) ++
        buildCommand (masterCommand name) ∧
      ∀ turns, getMasterAddrByName name true (hosts.map Prod.snd) turns q = await true turns ⟨s, {}⟩
  none : ∀ refusing, hosts = WatchedSentinel.refuse refusing → ∀ turns,
    ∃ q', getMasterAddrByName name true (hosts.map Prod.snd) turns q = .ok (some false) q'
  closed : ∀ turns found q',
    getMasterAddrByName name true (hosts.map Prod.snd) turns q = .ok (some found) q' →
      q'.sentinel.isConnected = false

/-- A query that was sent and returned has disconnected. -/
theorem await_closed {turns : List (LookupTurn κ)} {found : Bool} {q q' : MasterQuery κ}
    (h : await true turns q = .ok (some found) q') : q'.sentinel.isConnected = false := by
  unfold await at h
  obtain ⟨⟨⟩, q₁, -, h⟩ := bind_eq_ok h
  rw [get_bind] at h
  split at h
  · cases h
    rfl
  · cases h

section Asks

variable {hosts : List (SentinelDef × Bool)} {refusing : List SentinelDef} {q : MasterQuery κ}
  (hsentinels : q.sentinel.sentinels = hosts.map Prod.fst)
  (hclosed : q.sentinel.isConnected = false) (hsome : hosts ≠ [])
include hsentinels hsome

/-- What `connect_sentinel` leaves behind, watched, is what the query goes on with. -/
theorem openLink_watched {w' : WatchedSentinel (SentinelCallback κ) Unit}
    (h : after (WatchedSentinel.connectSentinel none (hosts.map Prod.snd)) ⟨q.sentinel, none, []⟩ = w') :
    openLink true (hosts.map Prod.snd) q = .ok w'.isConnected ⟨w'.sentinel, {}⟩ := by
  have hne : q.sentinel.sentinels ≠ [] := by
    rw [hsentinels, ne_eq, List.map_eq_nil_iff]
    exact hsome
  refine openLink_tried hne ?_
  rw [← h]
  exact (WatchedSentinel.connectSentinel_projects none (hosts.map Prod.snd)).after_eq
    ⟨q.sentinel, none, []⟩

include hclosed

theorem openLink_found {it : SentinelDef} {rest : List (SentinelDef × Bool)}
    (hhosts : hosts = WatchedSentinel.refuse refusing ++ (it, true) :: rest) :
    ∃ w' : WatchedSentinel (SentinelCallback κ) Unit,
      WatchedSentinel.Refused refusing ⟨q.sentinel, none, []⟩ w' ∧
        openLink true (hosts.map Prod.snd) q =
          .ok true ⟨((w'.accept it).setHandler none).sentinel, {}⟩ := by
  obtain ⟨w', hrefused, hconnect⟩ := WatchedSentinel.connectSentinel_found
    (w := ⟨q.sentinel, none, []⟩) hsentinels hclosed (none : Option Unit) hhosts
  exact ⟨w', hrefused, openLink_watched hsentinels hsome (after_ok hconnect)⟩

theorem openLink_none (hhosts : hosts = WatchedSentinel.refuse refusing) :
    ∃ s', s'.isConnected = false ∧ openLink true (hosts.map Prod.snd) q = .ok false ⟨s', {}⟩ := by
  obtain ⟨w', hrefused, hconnect⟩ := WatchedSentinel.connectSentinel_none
    (w := ⟨q.sentinel, none, []⟩) hsentinels hclosed (none : Option Unit) hsome hhosts
  have hopen := openLink_watched hsentinels hsome (after_error hconnect)
  rw [hrefused.connected] at hopen
  exact ⟨w'.sentinel, hrefused.connected, hopen⟩

/-- The first sentinel that is reachable is asked. -/
theorem getMasterAddrByName_found {it : SentinelDef} {rest : List (SentinelDef × Bool)}
    (hhosts : hosts = WatchedSentinel.refuse refusing ++ (it, true) :: rest) (name : Bytes) :
    ∃ w' : WatchedSentinel (SentinelCallback κ) Unit,
      WatchedSentinel.Refused refusing ⟨q.sentinel, none, []⟩ w' ∧ ∀ turns,
        getMasterAddrByName name true (hosts.map Prod.snd) turns q =
          await true turns (waiting name ((w'.accept it).setHandler none).sentinel) := by
  obtain ⟨w', hrefused, hopen⟩ := openLink_found hsentinels hclosed hsome hhosts
  exact ⟨w', hrefused, getMasterAddrByName_sent hopen rfl name⟩

theorem getMasterAddrByName_none (hhosts : hosts = WatchedSentinel.refuse refusing) (name : Bytes)
    (turns : List (LookupTurn κ)) : ∃ q', q'.sentinel.isConnected = false ∧
      getMasterAddrByName name true (hosts.map Prod.snd) turns q = .ok (some false) q' := by
  obtain ⟨s', hclosed', hopen⟩ := openLink_none hsentinels hclosed hsome hhosts
  refine ⟨⟨s', {}⟩, hclosed', ?_⟩
  unfold getMasterAddrByName
  rw [bind_ok hopen]
  rfl

theorem asks (name : Bytes) : Asks endpointOf hosts name q where
  found refusing it rest hhosts := by
    obtain ⟨w', hrefused, hcall⟩ :=
      getMasterAddrByName_found hsentinels hclosed hsome hhosts name
    refine ⟨(waiting name ((w'.accept it).setHandler none).sentinel).sentinel, rfl, ?_, ?_, hcall⟩
    · show w'.dialled ++ [endpointOf it] = _
      rw [hrefused.dialled, List.append_assoc, List.map_append]
      rfl
    · show [] ++ (w'.sentinel.client.buffer ++ buildCommand (masterCommand name)) = _
      rw [hrefused.buffer]
      rfl
  none refusing hhosts turns := by
    obtain ⟨q', -, hcall⟩ :=
      getMasterAddrByName_none hsentinels hclosed hsome hhosts name turns
    exact ⟨q', hcall⟩
  closed turns found q' h := by
    rcases WatchedSentinel.hosts_cases hosts with ⟨refusing, hhosts⟩ | ⟨refusing, it, rest, hhosts⟩
    · obtain ⟨q₁, hclosed', hcall⟩ :=
        getMasterAddrByName_none hsentinels hclosed hsome hhosts name turns
      rw [hcall] at h
      cases h
      exact hclosed'
    · obtain ⟨w', -, hcall⟩ := getMasterAddrByName_found hsentinels hclosed hsome hhosts name
      rw [hcall] at h
      exact await_closed h

end Asks

end MasterQuery

/-! ## The first live sentinel -/

/-- For all sentinels, whichever of them are reachable. -/
theorem failover {κ η : Type} (hosts : List (SentinelDef × Bool)) (hsome : hosts ≠ []) :
    (∀ (handler : Option η) (w : WatchedSentinel κ η), w.sentinel.sentinels = hosts.map Prod.fst →
      w.isConnected = false → w.FailsOver endpointOf hosts handler) ∧
      ∀ (name : Bytes) (q : MasterQuery κ), q.sentinel.sentinels = hosts.map Prod.fst →
        q.sentinel.isConnected = false → q.Asks endpointOf hosts name :=
  ⟨fun handler _ hsentinels hclosed => WatchedSentinel.failsOver hsome hsentinels hclosed handler,
    fun name _ hsentinels hclosed => MasterQuery.asks hsentinels hclosed hsome name⟩

/-- The first of two sentinels is down. -/
def firstDown : List (SentinelDef × Bool) :=
  [(⟨ascii "a", 26379, 10⟩, false), (⟨ascii "b", 26380, 20⟩, true)]

theorem failover_firstDown :
    WatchedSentinel.FailsOver endpointOf firstDown (some 7)
        (⟨{ sentinels := firstDown.map Prod.fst }, some 3, []⟩ : WatchedSentinel Unit Nat) ∧
      MasterQuery.Asks endpointOf firstDown (ascii "m")
        (⟨{ sentinels := firstDown.map Prod.fst }, {}⟩ : MasterQuery Unit) := by
  obtain ⟨hconnect, hask⟩ : (∀ (handler : Option Nat) (w : WatchedSentinel Unit Nat), _) ∧
      ∀ (name : Bytes) (q : MasterQuery Unit), _ := failover firstDown (by decide)
  exact ⟨hconnect (some 7) _ rfl rfl, hask (ascii "m") _ rfl rfl⟩

/-- A port that 32 bits do not hold. -/
def widePort : SentinelDef :=
  ⟨ascii "s", 2 ^ 32 + 26379, 0⟩

/-- It is dialled at another one. -/
theorem not_failover :
    ¬ WatchedSentinel.FailsOver (fun it => ⟨it.host, it.port, it.timeoutMsecs⟩) [(widePort, true)]
      (some 7) (⟨{ sentinels := [widePort] }, none, []⟩ : WatchedSentinel Unit Nat) := by
  intro h
  obtain ⟨w', hconnect, -, hdialled, -⟩ := h.found [] widePort [] rfl
  rw [← after_ok hconnect] at hdialled
  revert hdialled
  decide

end CppRedis
