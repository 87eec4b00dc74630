import CppRedis.Calls
import CppRedis.Mirror

/-!
# Subscriptions whose command was discarded

A commit that fails and a disconnect discard the send buffer of the connection. The tables
of a subscriber stay as they are, so that what is registered then is registered for good
and subscribed to on no connection: neither `commit` nor `connect` sends it again. A client
clears its queue in both places.

* `always_sent`: a run whose failed commits and disconnects find both tables empty
  registers nothing that it does not send.
* `always_survives_iff`: no other run is safe. Wherever its steps do not meet the
  condition, the next connection and commit leave a registration that was not sent.

A run is made of calls of public functions and of parts of `connect`, which calls the user
back in between (`enabled_of_call`, `connect_possible`).
-/

namespace CppRedis

open Text Procedure

/-! ## What a server was sent -/

namespace Subscriber

/-- The command that adds a key. -/
def Table.verb : Table → Bytes
  | .channels => ascii "SUBSCRIBE"
  | .patterns => ascii "PSUBSCRIBE"

/-- A key was sent in a command that subscribes to it. -/
def SentIn (cmds : List Command) (table : Table) (key : Bytes) : Prop :=
  ∃ keys, table.verb :: keys ∈ cmds ∧ key ∈ keys

end Subscriber

open Subscriber in
/-- The keys of a table, as the server keeps them. -/
def Server.keys (server : Server) : Table → Finset Bytes
  | .channels => server.channels
  | .patterns => server.patterns

open Subscriber in
/-- A command adds the keys that it names. -/
theorem Server.mem_execute {server : Server} {cmd : Command} {table : Table} {key : Bytes}
    (h : key ∈ (server.execute cmd).keys table) :
    key ∈ server.keys table ∨ ∃ keys, cmd = table.verb :: keys ∧ key ∈ keys := by
  cases cmd with
  | nil => exact .inl h
  | cons name keys =>
    rw [Server.execute] at h
    split at h
    · next hname =>
      subst hname
      cases table with
      | channels =>
        rcases Finset.mem_union.mp h with hold | hnew
        · exact .inl hold
        · exact .inr ⟨keys, rfl, List.mem_toFinset.mp hnew⟩
      | patterns => exact .inl h
    · split at h
      · next hname =>
        subst hname
        cases table with
        | channels => exact .inl h
        | patterns =>
          rcases Finset.mem_union.mp h with hold | hnew
          · exact .inl hold
          · exact .inr ⟨keys, rfl, List.mem_toFinset.mp hnew⟩
      · split at h
        · cases table with
          | channels => exact .inl (Finset.mem_sdiff.mp h).1
          | patterns => exact .inl h
        · split at h
          · cases table with
            | channels => exact .inl h
            | patterns => exact .inl (Finset.mem_sdiff.mp h).1
          · exact .inl h

open Subscriber in
/-- What a server has subscribed a connection to was sent to it. By induction on the
commands, from the last one. -/
theorem sentIn_of_mem_executeAll {cmds : List Command} {table : Table} {key : Bytes}
    (h : key ∈ (executeAll cmds).keys table) : SentIn cmds table key := by
  induction cmds using List.reverseRecOn with
  | nil => cases table <;> cases h
  | append_singleton cmds cmd ih =>
    rw [executeAll_append] at h
    rcases Server.mem_execute h with hold | ⟨keys, hcmd, hkey⟩
    · obtain ⟨keys, hkeys, hkey⟩ := ih hold
      exact ⟨keys, List.mem_append_left _ hkeys, hkey⟩
    · exact ⟨keys, List.mem_append_right _ (List.mem_singleton.mpr hcmd.symm), hkey⟩

/-! ## Parts of a call -/

namespace Session

/-- `m_client.connect`, as `connect` calls it. -/
def dial (host : Bytes) (port timeoutMsecs : Nat) (accepted : Bool) (s : Session) : Session :=
  after (connection.zoom (RedisConnection.connect host port true true timeoutMsecs accepted)) s

/-- It opens a connection where there is none, and otherwise only tries. -/
theorem dial_eq (host : Bytes) (port timeoutMsecs : Nat) (accepted : Bool) (s : Session) :
    let endpoint : Endpoint := ⟨host, port % 2 ^ 32, timeoutMsecs⟩
    s.client.client.connected = false ∧ accepted = true ∧
        s.dial host port timeoutMsecs accepted = s.accepted endpoint ∨
      (s.client.client.connected = true ∨ accepted = false) ∧
        s.dial host port timeoutMsecs accepted = s.refused endpoint := by
  intro endpoint
  unfold dial
  rw [Lens.after_zoom]
  by_cases hrefused : s.client.client.connected = true ∨ accepted = false
  · refine .inr ⟨hrefused, ?_⟩
    have hafter := after_error
      (RedisConnection.connect_refused host port true true timeoutMsecs hrefused)
    exact congrArg (connection.set · s) hafter
  · obtain ⟨hclosed, haccepted⟩ := not_or.mp hrefused
    have hclosed : s.client.client.connected = false := Bool.eq_false_iff.mpr hclosed
    have haccepted : accepted = true := Bool.eq_true_of_not_eq_false haccepted
    refine .inl ⟨hclosed, haccepted, ?_⟩
    subst haccepted
    have hafter := after_ok
      (RedisConnection.connect_accepted host port true true timeoutMsecs hclosed)
    exact congrArg (connection.set · s) hafter

/-- A call of the session dials, or it leaves the connection alone. -/
theorem Call.dials_or_not {s t : Session} (h : Call s t) :
    t.client = s.client ∨
      ∃ host port timeoutMsecs accepted, t = s.dial host port timeoutMsecs accepted := by
  cases h with
  | lookup lookup =>
    obtain ⟨host, port, hafter⟩ := s.after_getMasterAddrByName lookup
    rw [hafter]
    exact .inl rfl
  | dial host port timeoutMsecs accepted => exact .inr ⟨host, port, timeoutMsecs, accepted, rfl⟩
  | _ => exact .inl rfl

end Session

namespace Subscriber

variable {κ : Type}

/-! ## Runs -/

/-- A subscriber, and whether its last commit succeeded. -/
structure Registry (κ : Type) where
  subscriber : Subscriber κ
  committed : Bool := false

namespace Registry

/-- A call of a public function. A call of `connect` dials once; the arguments that it
saves, and what it tells the connect callback, are changes of members that are set `aside`
here, and what the callback calls comes in between. -/
inductive Event (κ : Type)
  | subscribe (channel : Bytes) (callback acknowledgement : Option κ)
  | psubscribe (pattern : Bytes) (callback acknowledgement : Option κ)
  | unsubscribe (channel : Bytes)
  | punsubscribe (pattern : Bytes)
  | auth (password : Bytes) (callback : Option κ)
  | commit
  | disconnect
  | dial (host : Bytes) (port timeoutMsecs : Nat) (accepted : Bool)
  | aside (t : Session)

def Enabled (w : Registry κ) : Event κ → Prop
  | .aside t => t.client = w.subscriber.client
  | _ => True

def step (w : Registry κ) : Event κ → Registry κ
  | .subscribe channel callback acknowledgement =>
    { w with subscriber := w.subscriber.subscribe channel callback acknowledgement }
  | .psubscribe pattern callback acknowledgement =>
    { w with subscriber := w.subscriber.psubscribe pattern callback acknowledgement }
  | .unsubscribe channel => { w with subscriber := w.subscriber.unsubscribe channel }
  | .punsubscribe pattern => { w with subscriber := w.subscriber.punsubscribe pattern }
  | .auth password callback => { w with subscriber := w.subscriber.auth password callback }
  | .commit =>
    { subscriber := after Subscriber.commit w.subscriber
      committed := (value Subscriber.commit w.subscriber).isSome }
  | .disconnect => { w with subscriber := w.subscriber.disconnect }
  | .dial host port timeoutMsecs accepted =>
    { w with
      subscriber := session.set
        (w.subscriber.toSession.dial host port timeoutMsecs accepted) w.subscriber }
  | .aside t => { w with subscriber := session.set t w.subscriber }

/-- A subscriber, and what is called. -/
def machine : Machine (Registry κ) (Event κ) :=
  ⟨Enabled, step⟩

/-- Every call is an event. -/
theorem enabled_of_call {w : Registry κ} {s : Subscriber κ} (h : Call w.subscriber s) :
    ∃ e, machine.enabled w e ∧ (machine.step w e).subscriber = s := by
  cases h with
  | session hcall =>
    rcases hcall.dials_or_not with haside | ⟨host, port, timeoutMsecs, accepted, rfl⟩
    · exact ⟨.aside _, haside, rfl⟩
    · exact ⟨.dial host port timeoutMsecs accepted, trivial, rfl⟩
  | auth password callback => exact ⟨.auth password callback, trivial, rfl⟩
  | subscribe channel callback acknowledgement =>
    exact ⟨.subscribe channel callback acknowledgement, trivial, rfl⟩
  | psubscribe pattern callback acknowledgement =>
    exact ⟨.psubscribe pattern callback acknowledgement, trivial, rfl⟩
  | unsubscribe channel => exact ⟨.unsubscribe channel, trivial, rfl⟩
  | punsubscribe pattern => exact ⟨.punsubscribe pattern, trivial, rfl⟩
  | commit => exact ⟨.commit, trivial, rfl⟩
  | disconnect => exact ⟨.disconnect, trivial, rfl⟩

/-- Calls one after the other are a run. -/
theorem possible_of_calls {w : Registry κ} {s : Subscriber κ}
    (h : Relation.ReflTransGen Call w.subscriber s) :
    ∃ events, machine.Possible w events ∧ (machine.run w events).subscriber = s := by
  induction h with
  | refl => exact ⟨[], trivial, rfl⟩
  | tail _ hcall ih =>
    obtain ⟨events, hevents, hrun⟩ := ih
    subst hrun
    obtain ⟨e, he, hstep⟩ := enabled_of_call hcall
    refine ⟨events ++ [e], Machine.possible_append.mpr ⟨hevents, he, trivial⟩, ?_⟩
    rw [Machine.run_append]
    exact hstep

/-- A call of `connect` is a run, whatever the connect callback calls and however the two
end. -/
theorem connect_possible {notify : Notification → EStateM Fault (Subscriber κ) Unit}
    (hnotify : ∀ n, Follows Call (notify n)) (p : Session.ConnectParams) (accepted : Bool)
    (w : Registry κ) :
    ∃ events, machine.Possible w events ∧
      (machine.run w events).subscriber = after (connect notify p accepted) w.subscriber := by
  have hcalls : Owner.Calls (owner notify) Call := ⟨fun _ _ h => .session h, hnotify⟩
  exact possible_of_calls (hcalls.connect_follows p accepted w.subscriber)

/-- The same by the name of the master. -/
theorem connectByName_possible {notify : Notification → EStateM Fault (Subscriber κ) Unit}
    (hnotify : ∀ n, Follows Call (notify n)) (name : Bytes) (p : Session.ConnectParams)
    (lookup : Lookup) (accepted : Bool) (w : Registry κ) :
    ∃ events, machine.Possible w events ∧
      (machine.run w events).subscriber =
        after (connectByName notify name p lookup accepted) w.subscriber := by
  have hcalls : Owner.Calls (owner notify) Call := ⟨fun _ _ h => .session h, hnotify⟩
  exact possible_of_calls (hcalls.connectByName_follows _ name p lookup accepted w.subscriber)

/-! ## What is registered was sent -/

/-- Where the subscriber is connected and its last commit has left nothing to send, every
key that is registered was sent on this connection. -/
def AllSent (w : Registry κ) : Prop :=
  w.subscriber.client.isConnected = true → w.committed = true → w.subscriber.client.buffer = [] →
    ∃ cmds, decodeCommands w.subscriber.client.client.written = some cmds ∧
      ∀ (table : Table) (key : Bytes), key ∈ table.entries w.subscriber → SentIn cmds table key

/-- Nothing is registered. -/
def Unregistered (s : Subscriber κ) : Prop :=
  s.subscribedChannels.isEmpty = true ∧ s.psubscribedChannels.isEmpty = true

/-- The event discards no command of a key that stays registered. -/
def Keeps (w : Registry κ) : Event κ → Prop
  | .commit => w.subscriber.client.isConnected = true ∨ Unregistered w.subscriber
  | .disconnect => Unregistered w.subscriber
  | _ => True

instance (w : Registry κ) : (e : Event κ) → Decidable (w.Keeps e)
  | .commit => inferInstanceAs (Decidable ((_ = _) ∨ (_ = _ ∧ _ = _)))
  | .disconnect => inferInstanceAs (Decidable (_ = _ ∧ _ = _))
  | .subscribe _ _ _ => .isTrue trivial
  | .psubscribe _ _ _ => .isTrue trivial
  | .unsubscribe _ => .isTrue trivial
  | .punsubscribe _ => .isTrue trivial
  | .auth _ _ => .isTrue trivial
  | .dial _ _ _ _ => .isTrue trivial
  | .aside _ => .isTrue trivial

theorem mem_keys_mirror {s : Subscriber κ} {table : Table} {key : Bytes} :
    key ∈ s.mirror.keys table ↔ key ∈ table.entries s := by
  cases table with
  | channels =>
    exact Subscriptions.mem_keySet.trans Std.TreeMap.mem_iff_isSome_getElem?.symm
  | patterns =>
    exact Subscriptions.mem_keySet.trans Std.TreeMap.mem_iff_isSome_getElem?.symm

theorem keySet_of_isEmpty {m : Subscriptions κ} (h : m.isEmpty = true) : m.keySet = ∅ := by
  ext key
  rw [Subscriptions.mem_keySet, ← Std.TreeMap.mem_iff_isSome_getElem?]
  exact ⟨fun hkey => absurd hkey (Std.TreeMap.not_mem_of_isEmpty h),
    fun hkey => absurd hkey (Finset.notMem_empty key)⟩

theorem mirror_of_unregistered {s : Subscriber κ} (h : Unregistered s) : s.mirror = {} := by
  unfold mirror
  rw [keySet_of_isEmpty h.1, keySet_of_isEmpty h.2]

/-- Nothing is registered, and nothing sent. -/
theorem carries_of_unregistered {s : Subscriber κ} (h : Unregistered s) (hsent : s.sent = []) :
    s.Carries :=
  ⟨[], hsent, (mirror_of_unregistered h).symm⟩

theorem sent_closed {s : Subscriber κ} (hclosed : s.client.isConnected = false)
    (hbuffer : s.client.buffer = []) : s.sent = [] := by
  unfold sent
  rw [hclosed, hbuffer]
  rfl

theorem commit_closed {s : Subscriber κ} (hclosed : s.client.isConnected = false) :
    Subscriber.commit s = .error (.redisError s.client.client.what)
      { s with client := s.client.discard } :=
  connection.zoom_error (RedisConnection.commit_disconnected hclosed)

/-- A step that meets the condition changes the tables as what it sends does. -/
theorem carries_step {w : Registry κ} (h : w.subscriber.Carries) {e : Event κ}
    (he : machine.enabled w e) (hkeeps : w.Keeps e) : (machine.step w e).subscriber.Carries := by
  cases e with
  | subscribe channel callback acknowledgement =>
    exact h.send [ascii "SUBSCRIBE", channel] rfl (mirror_subscribe _ _ _ _)
  | psubscribe pattern callback acknowledgement =>
    exact h.send [ascii "PSUBSCRIBE", pattern] rfl (mirror_psubscribe _ _ _ _)
  | unsubscribe channel =>
    rcases w.subscriber.unsubscribe_cases channel with hnone | ⟨hclient, -, hmirror⟩
    · show (w.subscriber.unsubscribe channel).Carries
      rw [hnone]
      exact h
    · exact h.send [ascii "UNSUBSCRIBE", channel] hclient hmirror
  | punsubscribe pattern =>
    rcases w.subscriber.punsubscribe_cases pattern with hnone | ⟨hclient, -, hmirror⟩
    · show (w.subscriber.punsubscribe pattern).Carries
      rw [hnone]
      exact h
    · exact h.send [ascii "PUNSUBSCRIBE", pattern] hclient hmirror
  | auth password callback =>
    exact h.send [ascii "AUTH", password] rfl (Server.execute_auth _ _).symm
  | commit =>
    show (after Subscriber.commit w.subscriber).Carries
    cases hc : w.subscriber.client.isConnected with
    | true => exact h.commit hc
    | false =>
      rcases hkeeps with hconnected | hnone
      · exact absurd (hc.symm.trans hconnected) Bool.false_ne_true
      · rw [after_error (commit_closed hc)]
        exact carries_of_unregistered hnone (sent_closed hc rfl)
  | disconnect => exact carries_of_unregistered hkeeps (sent_closed rfl rfl)
  | dial host port timeoutMsecs accepted =>
    rcases w.subscriber.toSession.dial_eq host port timeoutMsecs accepted with
      ⟨hclosed, -, hdial⟩ | ⟨-, hdial⟩
    · have hopened : Opened w.subscriber
          (machine.step w (.dial host port timeoutMsecs accepted)).subscriber := by
        show Opened w.subscriber (session.set _ w.subscriber)
        rw [hdial]
        exact ⟨rfl, rfl, rfl, rfl, rfl, rfl, rfl⟩
      exact hopened.carries hclosed h
    · have hsame : Same w.subscriber
          (machine.step w (.dial host port timeoutMsecs accepted)).subscriber := by
        show Same w.subscriber (session.set _ w.subscriber)
        rw [hdial]
        exact ⟨rfl, rfl, rfl, rfl, rfl, rfl, rfl⟩
      exact hsame.carries h
  | aside t =>
    refine h.congr ?_ rfl
    show (if t.client.isConnected then t.client.client.written else []) ++ t.client.buffer = _
    rw [show t.client = w.subscriber.client from he]
    rfl

/-- What the tables hold was sent, or is about to be. -/
theorem allSent_of_carries {w : Registry κ} (h : w.subscriber.Carries) : w.AllSent := by
  intro hc _ hbuffer
  obtain ⟨cmds, hcmds, hexecute⟩ := h
  unfold sent at hcmds
  rw [hc, if_pos rfl, hbuffer, List.append_nil] at hcmds
  refine ⟨cmds, ?_, fun table key hkey => ?_⟩
  · rw [hcmds]
    exact decodeCommands_encodeCommands cmds
  · apply sentIn_of_mem_executeAll
    rw [hexecute]
    exact mem_keys_mirror.mpr hkey

theorem carries_new {t : Session} (ht : Unused t) :
    ({ toSession := t } : Subscriber κ).Carries :=
  (Mirrored.new ht).carries

/-- A run whose failed commits and disconnects all find both tables empty: in every state
where the subscriber is connected and its last commit has left nothing to send, every key
that is registered was sent on this connection. -/
theorem always_allSent {t : Session} (ht : Unused t) {events : List (Event κ)}
    (h : machine.Possible { subscriber := { toSession := t } } events)
    (hkeeps : machine.Along Keeps { subscriber := { toSession := t } } events) :
    machine.Always AllSent { subscriber := { toSession := t } } events :=
  h.always_of_along (fun _ => allSent_of_carries) (fun _ _ hw he hk => carries_step hw he hk)
    hkeeps (carries_new ht)

/-- A channel that is subscribed to once the connection is there, a commit, and a commit
that fails when both tables are empty. -/
def keptEvents : List (Event Nat) :=
  [.commit, .subscribe (ascii "a") (some 0) none, .dial (ascii "h") 6379 0 true, .commit]

theorem always_allSent_keptEvents :
    machine.Always AllSent { subscriber := { toSession := {} } } keptEvents :=
  always_allSent ⟨rfl, rfl, rfl⟩ ⟨trivial, trivial, trivial, trivial, trivial⟩
    ⟨.inr ⟨rfl, rfl⟩, trivial, trivial, .inl rfl, trivial⟩

/-- A channel is subscribed to, the commit fails, and the next one does not. -/
def discardedEvents : List (Event Nat) :=
  [.subscribe (ascii "a") (some 0) none, .commit, .dial (ascii "h") 6379 0 true, .commit]

/-- After `discardedEvents` the channel is registered, and nothing was ever sent. -/
theorem not_allSent :
    ¬ ∀ (t : Session) (events : List (Event Nat)), Unused t →
      machine.Possible { subscriber := { toSession := t } } events →
      AllSent (machine.run { subscriber := { toSession := t } } events) := by
  intro h
  obtain ⟨cmds, hcmds, hsent⟩ := h {} discardedEvents ⟨rfl, rfl, rfl⟩
    ⟨trivial, trivial, trivial, trivial, trivial⟩ rfl rfl rfl
  have hnone : decodeCommands [] = some cmds := hcmds
  cases (decodeCommands_encodeCommands []).symm.trans hnone
  obtain ⟨keys, hkeys, -⟩ := hsent .channels (ascii "a")
    (Std.TreeMap.mem_insert_self (t := (∅ : Subscriptions Nat)))
  cases hkeys

/-! ## No other run is safe -/

/-- If the subscriber was connected and committed now, every key would have been sent. -/
def Survives (w : Registry κ) : Prop :=
  ∀ host port timeoutMsecs,
    AllSent (machine.run w [.dial host port timeoutMsecs true, .commit])

theorem dial_connected (w : Registry κ) (host : Bytes) (port timeoutMsecs : Nat) :
    (machine.step w (.dial host port timeoutMsecs true)).subscriber.client.isConnected = true := by
  show (session.set (w.subscriber.toSession.dial host port timeoutMsecs true)
    w.subscriber).client.isConnected = true
  rcases w.subscriber.toSession.dial_eq host port timeoutMsecs true with
    ⟨-, -, hdial⟩ | ⟨hconnected, hdial⟩
  · rw [hdial]
    rfl
  · rw [hdial]
    exact hconnected.resolve_right (by decide)

theorem survives_of_carries {w : Registry κ} (h : w.subscriber.Carries) : w.Survives := by
  intro host port timeoutMsecs
  have hdial := carries_step h (e := .dial host port timeoutMsecs true) trivial trivial
  exact allSent_of_carries
    (carries_step hdial (e := .commit) trivial (.inl (w.dial_connected host port timeoutMsecs)))

/-- With neither a connection nor anything to send, only what is registered counts. -/
theorem unregistered_of_survives {w : Registry κ}
    (hclosed : w.subscriber.client.isConnected = false)
    (hbuffer : w.subscriber.client.buffer = []) (h : w.Survives) : Unregistered w.subscriber := by
  have hdial : w.subscriber.toSession.dial [] 0 0 true =
      w.subscriber.toSession.accepted ⟨[], 0, 0⟩ := by
    rcases w.subscriber.toSession.dial_eq [] 0 0 true with ⟨-, -, hdial⟩ | ⟨hconnected, -⟩
    · exact hdial
    · exact absurd (hclosed.symm.trans (hconnected.resolve_right (by decide))) Bool.false_ne_true
  have hdialled : (machine.step w (.dial [] 0 0 true)).subscriber =
      session.set (w.subscriber.toSession.accepted ⟨[], 0, 0⟩) w.subscriber :=
    congrArg (session.set · w.subscriber) hdial
  have hcommit :
      Subscriber.commit (session.set (w.subscriber.toSession.accepted ⟨[], 0, 0⟩) w.subscriber) =
      .ok () (connection.update RedisConnection.flush
        (session.set (w.subscriber.toSession.accepted ⟨[], 0, 0⟩) w.subscriber)) :=
    connection.zoom_ok (RedisConnection.commit_connected rfl)
  have hrun : machine.run w [.dial [] 0 0 true, .commit] =
      ⟨connection.update RedisConnection.flush
        (session.set (w.subscriber.toSession.accepted ⟨[], 0, 0⟩) w.subscriber), true⟩ := by
    show Registry.mk (after Subscriber.commit (machine.step w (.dial [] 0 0 true)).subscriber)
      (value Subscriber.commit (machine.step w (.dial [] 0 0 true)).subscriber).isSome = _
    rw [hdialled, after_ok hcommit, value_ok hcommit]
    rfl
  have hsent := h [] 0 0
  rw [hrun] at hsent
  obtain ⟨cmds, hcmds, hsent⟩ := hsent rfl rfl rfl
  have hwritten : decodeCommands w.subscriber.client.buffer = some cmds := hcmds
  rw [hbuffer] at hwritten
  cases (decodeCommands_encodeCommands []).symm.trans hwritten
  have hnone (table : Table) (key : Bytes) : key ∉ table.entries w.subscriber := by
    intro hkey
    obtain ⟨keys, hkeys, -⟩ := hsent table key (by cases table <;> exact hkey)
    cases hkeys
  exact ⟨Std.TreeMap.isEmpty_iff_forall_not_mem.mpr (hnone .channels),
    Std.TreeMap.isEmpty_iff_forall_not_mem.mpr (hnone .patterns)⟩

/-- A step that leaves nothing that would not be sent meets the condition. -/
theorem keeps_of_survives {w : Registry κ} {e : Event κ} (h : (machine.step w e).Survives) :
    w.Keeps e := by
  cases e with
  | commit =>
    cases hc : w.subscriber.client.isConnected with
    | true => exact .inl hc
    | false =>
      have hstep : (machine.step w .commit).subscriber =
          { w.subscriber with client := w.subscriber.client.discard } :=
        after_error (commit_closed hc)
      have hnone := unregistered_of_survives (by rw [hstep]; exact hc) (by rw [hstep]; rfl) h
      rw [hstep] at hnone
      exact .inr hnone
  | disconnect => exact unregistered_of_survives (w := machine.step w .disconnect) rfl rfl h
  | _ => trivial

/-- Every state of a run is one from which the next connection and commit would have sent
every key, if and only if all failed commits and disconnects find both tables empty. -/
theorem always_survives_iff {t : Session} (ht : Unused t) {events : List (Event κ)}
    (h : machine.Possible { subscriber := { toSession := t } } events) :
    machine.Always Survives { subscriber := { toSession := t } } events ↔
      machine.Along Keeps { subscriber := { toSession := t } } events :=
  Machine.always_iff_along_of_kept (fun _ => survives_of_carries)
    (fun _ _ hw he hk => carries_step hw he hk) (fun _ _ _ _ hs => keeps_of_survives hs) h
    (carries_new ht)

end Registry

end Subscriber

end CppRedis
