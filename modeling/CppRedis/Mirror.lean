import CppRedis.Attempts
import CppRedis.Dispatch
import CppRedis.Lib.Machine
import Mathlib.Data.Finset.Basic
import Mathlib.Data.Finset.Lattice.Lemmas

/-!
# The subscriptions on both sides

A subscriber writes commands; the server adds and removes subscriptions as it executes
them (`Server.execute`). A new connection starts with no subscription, so what it is
subscribed to is what the commands written on it make of nothing.

* `Mirrored`: the commands written on the current connection and those in the buffer
  make the two key sets of the subscriber. Every step of a run keeps it: what is not
  written yet counts as sent, and a reconnection sends the tables as a whole.
* `mirrors`: where the buffer is empty, the commands written make the key sets; and a
  reconnection that succeeds leaves both tables as they were, entry by entry.

The connect callback makes no call (`Silent`), but it may throw.
-/

namespace CppRedis

open Text Procedure

/-! ## Key sets -/

namespace Subscriptions

variable {κ : Type}

/-- The keys of a table. -/
def keySet (m : Subscriptions κ) : Finset Bytes :=
  m.keys.toFinset

theorem mem_keySet {m : Subscriptions κ} {key : Bytes} : key ∈ m.keySet ↔ m[key]?.isSome = true := by
  unfold keySet
  rw [List.mem_toFinset, Std.TreeMap.mem_keys, Std.TreeMap.mem_iff_isSome_getElem?]

/-- Equal entries, equal keys. -/
theorem keySet_congr {m m' : Subscriptions κ} (h : ∀ key : Bytes, m'[key]? = m[key]?) :
    m'.keySet = m.keySet := by
  ext key
  rw [mem_keySet, mem_keySet, h]

theorem keySet_insert (m : Subscriptions κ) (key : Bytes) (holder : CallbackHolder κ) :
    keySet (m.insert key holder) = m.keySet ∪ {key} := by
  ext key'
  rw [mem_keySet, getElem?_insert, Finset.mem_union, mem_keySet, Finset.mem_singleton]
  by_cases hkey : key = key'
  · rw [if_pos hkey]
    exact ⟨fun _ => .inr hkey.symm, fun _ => rfl⟩
  · rw [if_neg hkey]
    exact ⟨.inl, fun h => h.resolve_right fun h' => hkey h'.symm⟩

theorem keySet_erase (m : Subscriptions κ) (key : Bytes) :
    keySet (m.erase key) = m.keySet \ {key} := by
  ext key'
  rw [mem_keySet, getElem?_erase, Finset.mem_sdiff, mem_keySet, Finset.mem_singleton]
  by_cases hkey : key = key'
  · rw [if_pos hkey]
    exact ⟨fun h => absurd h Bool.false_ne_true, fun h => absurd hkey.symm h.2⟩
  · rw [if_neg hkey]
    exact ⟨fun h => ⟨h, fun h' => hkey h'.symm⟩, fun h => h.1⟩

/-- The entries of a table, moved out and inserted again one by one. -/
theorem getElem?_insertMany_toList (m : Subscriptions κ) (key : Bytes) :
    ((∅ : Subscriptions κ).insertMany m.toList)[key]? = m[key]? := by
  cases hkey : m[key]? with
  | some holder =>
    have hmem : (key, holder) ∈ m.toList := Std.TreeMap.mem_toList_iff_getElem?_eq_some.mpr hkey
    exact Std.TreeMap.getElem?_insertMany_list_of_mem Std.ReflCmp.compare_self
      Std.TreeMap.distinct_keys_toList hmem
  | none =>
    have hmissing : (m.toList.map Prod.fst).contains key = false := by
      rw [Std.TreeMap.map_fst_toList_eq_keys, Std.TreeMap.contains_keys,
        Std.TreeMap.contains_eq_isSome_getElem?, hkey]
      rfl
    rw [Std.TreeMap.getElem?_insertMany_list_of_contains_eq_false hmissing]
    exact Std.TreeMap.getElem?_emptyc

end Subscriptions

/-! ## The server -/

/-- What a connection is subscribed to, as the server keeps it. -/
structure Server where
  channels : Finset Bytes := ∅
  patterns : Finset Bytes := ∅

/-- The server executes a command. One of another name, such as `AUTH`, changes nothing. -/
def Server.execute (server : Server) : Command → Server
  | [] => server
  | name :: keys =>
    if name = ascii "SUBSCRIBE" then { server with channels := server.channels ∪ keys.toFinset }
    else if name = ascii "PSUBSCRIBE" then
      { server with patterns := server.patterns ∪ keys.toFinset }
    else if name = ascii "UNSUBSCRIBE" then
      { server with channels := server.channels \ keys.toFinset }
    else if name = ascii "PUNSUBSCRIBE" then
      { server with patterns := server.patterns \ keys.toFinset }
    else server

/-- What the commands of a connection leave. -/
def executeAll (cmds : List Command) : Server :=
  cmds.foldl Server.execute {}

theorem executeAll_append (cmds cmds' : List Command) :
    executeAll (cmds ++ cmds') = cmds'.foldl Server.execute (executeAll cmds) :=
  List.foldl_append

namespace Server

theorem execute_subscribe (server : Server) (keys : List Bytes) :
    server.execute (ascii "SUBSCRIBE" :: keys) =
      { server with channels := server.channels ∪ keys.toFinset } :=
  rfl

theorem execute_psubscribe (server : Server) (keys : List Bytes) :
    server.execute (ascii "PSUBSCRIBE" :: keys) =
      { server with patterns := server.patterns ∪ keys.toFinset } :=
  rfl

theorem execute_unsubscribe (server : Server) (keys : List Bytes) :
    server.execute (ascii "UNSUBSCRIBE" :: keys) =
      { server with channels := server.channels \ keys.toFinset } :=
  rfl

theorem execute_punsubscribe (server : Server) (keys : List Bytes) :
    server.execute (ascii "PUNSUBSCRIBE" :: keys) =
      { server with patterns := server.patterns \ keys.toFinset } :=
  rfl

theorem execute_auth (server : Server) (args : List Bytes) :
    server.execute (ascii "AUTH" :: args) = server :=
  rfl

/-- A SUBSCRIBE for each channel. By induction on the channels. -/
theorem execute_subscribes (server : Server) (keys : List Bytes) :
    (keys.map fun key => [ascii "SUBSCRIBE", key]).foldl execute server =
      { server with channels := server.channels ∪ keys.toFinset } := by
  induction keys generalizing server with
  | nil =>
    rw [List.toFinset_nil, Finset.union_empty]
    rfl
  | cons key keys ih =>
    rw [List.map_cons, List.foldl_cons, execute_subscribe, ih, List.toFinset_cons, List.toFinset_cons]
    simp

/-- A PSUBSCRIBE for each pattern. -/
theorem execute_psubscribes (server : Server) (keys : List Bytes) :
    (keys.map fun key => [ascii "PSUBSCRIBE", key]).foldl execute server =
      { server with patterns := server.patterns ∪ keys.toFinset } := by
  induction keys generalizing server with
  | nil =>
    rw [List.toFinset_nil, Finset.union_empty]
    rfl
  | cons key keys ih =>
    rw [List.map_cons, List.foldl_cons, execute_psubscribe, ih, List.toFinset_cons, List.toFinset_cons]
    simp

end Server

namespace Subscriber

variable {κ : Type}

/-- The key sets of the two tables. -/
def mirror (s : Subscriber κ) : Server :=
  ⟨s.subscribedChannels.keySet, s.psubscribedChannels.keySet⟩

/-- What is written on the current connection, and then what is not written yet. -/
def sent (s : Subscriber κ) : Bytes :=
  (if s.client.isConnected then s.client.client.written else []) ++ s.client.buffer

/-- The commands sent make the key sets of the subscriber. -/
def Carries (s : Subscriber κ) : Prop :=
  ∃ cmds, s.sent = encodeCommands cmds ∧ executeAll cmds = s.mirror

theorem Carries.congr {s s' : Subscriber κ} (h : s.Carries) (hsent : s'.sent = s.sent)
    (hmirror : s'.mirror = s.mirror) : s'.Carries := by
  obtain ⟨cmds, hcmds, hexecute⟩ := h
  exact ⟨cmds, hsent.trans hcmds, hexecute.trans hmirror.symm⟩

/-- A command is sent, and the tables change as the server does. -/
theorem Carries.send {s s' : Subscriber κ} (h : s.Carries) (redisCmd : Command)
    (hclient : s'.client = s.client.send redisCmd)
    (hmirror : s'.mirror = s.mirror.execute redisCmd) : s'.Carries := by
  obtain ⟨cmds, hcmds, hexecute⟩ := h
  refine ⟨cmds ++ [redisCmd], ?_, ?_⟩
  · rw [encodeCommands_append, encodeCommands_singleton, ← hcmds]
    unfold sent
    rw [hclient, List.append_assoc]
    rfl
  · rw [executeAll_append, hexecute, hmirror]
    rfl

/-- What is in the buffer is written. -/
theorem Carries.commit {s : Subscriber κ} (h : s.Carries) (hc : s.client.client.connected = true) :
    (after Subscriber.commit s).Carries := by
  have hcommit : Subscriber.commit s = .ok () (connection.update RedisConnection.flush s) :=
    connection.zoom_ok (RedisConnection.commit_connected hc)
  rw [after_ok hcommit]
  refine h.congr ?_ rfl
  show (if s.client.client.connected then s.client.client.written ++ s.client.buffer else []) ++ [] =
    (if s.client.client.connected then s.client.client.written else []) ++ s.client.buffer
  rw [hc, if_pos rfl, if_pos rfl, List.append_nil]

/-! ### The tables and what is sent -/

theorem mirror_subscribe (s : Subscriber κ) (channel : Bytes) (callback acknowledgement : Option κ) :
    (s.subscribe channel callback acknowledgement).mirror =
      s.mirror.execute [ascii "SUBSCRIBE", channel] := by
  rw [Server.execute_subscribe]
  exact congrArg (Server.mk · _) (Subscriptions.keySet_insert _ _ _)

theorem mirror_psubscribe (s : Subscriber κ) (pattern : Bytes) (callback acknowledgement : Option κ) :
    (s.psubscribe pattern callback acknowledgement).mirror =
      s.mirror.execute [ascii "PSUBSCRIBE", pattern] := by
  rw [Server.execute_psubscribe]
  exact congrArg (Server.mk _) (Subscriptions.keySet_insert _ _ _)

/-- An unsubscription from what is not subscribed to sends nothing. -/
theorem unsubscribe_cases (s : Subscriber κ) (channel : Bytes) :
    s.unsubscribe channel = s ∨
      (s.unsubscribe channel).client = s.client.send [ascii "UNSUBSCRIBE", channel] ∧
        (s.unsubscribe channel).reconnecting = s.reconnecting ∧
        (s.unsubscribe channel).mirror = s.mirror.execute [ascii "UNSUBSCRIBE", channel] := by
  unfold Subscriber.unsubscribe
  split
  · refine .inr ⟨rfl, rfl, ?_⟩
    rw [Server.execute_unsubscribe]
    exact congrArg (Server.mk · _) (Subscriptions.keySet_erase _ _)
  · exact .inl rfl

theorem punsubscribe_cases (s : Subscriber κ) (pattern : Bytes) :
    s.punsubscribe pattern = s ∨
      (s.punsubscribe pattern).client = s.client.send [ascii "PUNSUBSCRIBE", pattern] ∧
        (s.punsubscribe pattern).reconnecting = s.reconnecting ∧
        (s.punsubscribe pattern).mirror = s.mirror.execute [ascii "PUNSUBSCRIBE", pattern] := by
  unfold Subscriber.punsubscribe
  split
  · refine .inr ⟨rfl, rfl, ?_⟩
    rw [Server.execute_punsubscribe]
    exact congrArg (Server.mk _) (Subscriptions.keySet_erase _ _)
  · exact .inl rfl

/-! ## Subscribing again -/

/-- The commands with which a reconnection restores the subscriptions. -/
def resubscription (s : Subscriber κ) : List Command :=
  (if s.password.isEmpty then [] else [[ascii "AUTH", s.password]]) ++
    ((s.subscribedChannels.keys.map fun key => [ascii "SUBSCRIBE", key]) ++
      s.psubscribedChannels.keys.map fun key => [ascii "PSUBSCRIBE", key])

/-- They make the key sets of the tables. -/
theorem executeAll_resubscription (s : Subscriber κ) : executeAll s.resubscription = s.mirror := by
  unfold resubscription
  have hauth : executeAll (if s.password.isEmpty then [] else [[ascii "AUTH", s.password]]) = {} := by
    split
    · rfl
    · exact Server.execute_auth {} [s.password]
  rw [executeAll_append, hauth, List.foldl_append, Server.execute_subscribes,
    Server.execute_psubscribes, Finset.empty_union, Finset.empty_union]
  rfl

/-- `unprotected_subscribe` of each entry of a list, by induction on it. -/
theorem foldl_unprotectedSubscribe (chans : List (Bytes × CallbackHolder κ)) (s : Subscriber κ) :
    chans.foldl (fun s chan => s.unprotectedSubscribe chan.1 chan.2) s =
      { s with
        client := { s.client with
          buffer := s.client.buffer ++
            encodeCommands (chans.map fun chan => [ascii "SUBSCRIBE", chan.1]) }
        subscribedChannels := s.subscribedChannels.insertMany chans } := by
  induction chans generalizing s with
  | nil => simp
  | cons chan chans ih =>
    obtain ⟨key, holder⟩ := chan
    rw [List.foldl_cons, ih, Std.TreeMap.insertMany_cons]
    simp [unprotectedSubscribe, sendCommand, RedisConnection.send, encodeCommands_cons]

theorem foldl_unprotectedPsubscribe (chans : List (Bytes × CallbackHolder κ)) (s : Subscriber κ) :
    chans.foldl (fun s chan => s.unprotectedPsubscribe chan.1 chan.2) s =
      { s with
        client := { s.client with
          buffer := s.client.buffer ++
            encodeCommands (chans.map fun chan => [ascii "PSUBSCRIBE", chan.1]) }
        psubscribedChannels := s.psubscribedChannels.insertMany chans } := by
  induction chans generalizing s with
  | nil => simp
  | cons chan chans ih =>
    obtain ⟨key, holder⟩ := chan
    rw [List.foldl_cons, ih, Std.TreeMap.insertMany_cons]
    simp [unprotectedPsubscribe, sendCommand, RedisConnection.send, encodeCommands_cons]

/-- The last lines of `reconnect`, up to the commit: all entries are sent, and are in the
tables as before. -/
theorem resent_eq (s : Subscriber κ) :
    s.reAuth.reSubscribe.client =
        { s.client with buffer := s.client.buffer ++ encodeCommands s.resubscription } ∧
      s.reAuth.reSubscribe.subscribedChannels = (∅ : Subscriptions κ).insertMany
        s.subscribedChannels.toList ∧
      s.reAuth.reSubscribe.psubscribedChannels = (∅ : Subscriptions κ).insertMany
        s.psubscribedChannels.toList := by
  have hkeys (m : Subscriptions κ) (verb : Bytes) :
      (m.toList.map fun chan => [verb, chan.1]) = m.keys.map fun key => [verb, key] := by
    rw [← Std.TreeMap.map_fst_toList_eq_keys, List.map_map]
    rfl
  unfold reSubscribe resubscription reAuth
  rw [foldl_unprotectedSubscribe]
  dsimp only
  rw [foldl_unprotectedPsubscribe, ← hkeys, ← hkeys]
  split
  · simp [encodeCommands_append]
  · simp [authWith, sendCommand, RedisConnection.send, encodeCommands_append, encodeCommands_cons]

/-- What a reconnection whose last lines return has written, and what it leaves. -/
theorem resume_ok {s s' : Subscriber κ} (h : resume s = .ok () s') :
    s.client.isConnected = true ∧
      s'.client = { s.client with buffer := s.client.buffer ++ encodeCommands s.resubscription }.flush ∧
      ∀ (table : Table) (key : Bytes), (table.entries s')[key]? = (table.entries s)[key]? := by
  obtain ⟨hclient, hchannels, hpatterns⟩ := resent_eq s
  have hcommit : commit s.reAuth.reSubscribe = .ok () s' := h
  generalize s.reAuth.reSubscribe = t at hcommit hclient hchannels hpatterns
  unfold commit at hcommit
  cases hc : s.client.client.connected with
  | false =>
    rw [connection.zoom_error (RedisConnection.commit_disconnected (by
      show t.client.client.connected = false
      rw [hclient]
      exact hc))] at hcommit
    cases hcommit
  | true =>
    rw [connection.zoom_ok (RedisConnection.commit_connected (by
      show t.client.client.connected = true
      rw [hclient]
      exact hc))] at hcommit
    cases hcommit
    refine ⟨hc, ?_, fun table key => ?_⟩
    · show t.client.flush = _
      rw [hclient]
    · cases table with
      | channels =>
        show t.subscribedChannels[key]? = _
        rw [hchannels]
        exact Subscriptions.getElem?_insertMany_toList _ key
      | patterns =>
        show t.psubscribedChannels[key]? = _
        rw [hpatterns]
        exact Subscriptions.getElem?_insertMany_toList _ key

/-! ## Attempts -/

/-- The connect callback makes no call. -/
def Silent (notify : Notification → EStateM Fault (Subscriber κ) Unit) : Prop :=
  ∀ n s, after (notify n) s = s

/-- The two states differ in the parameters and in what is only recorded. -/
structure Same (s s' : Subscriber κ) : Prop where
  connected : s'.client.client.connected = s.client.client.connected
  written : s'.client.client.written = s.client.client.written
  buffer : s'.client.buffer = s.client.buffer
  handled : s'.client.disconnectionHandler = s.client.disconnectionHandler
  reconnecting : s'.reconnecting = s.reconnecting
  channels : s'.subscribedChannels = s.subscribedChannels
  patterns : s'.psubscribedChannels = s.psubscribedChannels

theorem Same.refl (s : Subscriber κ) : Same s s :=
  ⟨rfl, rfl, rfl, rfl, rfl, rfl, rfl⟩

theorem Same.trans {s₁ s₂ s₃ : Subscriber κ} (h : Same s₁ s₂) (h' : Same s₂ s₃) : Same s₁ s₃ :=
  ⟨h'.connected.trans h.connected, h'.written.trans h.written, h'.buffer.trans h.buffer,
    h'.handled.trans h.handled, h'.reconnecting.trans h.reconnecting, h'.channels.trans h.channels,
    h'.patterns.trans h.patterns⟩

theorem Same.mirror {s s' : Subscriber κ} (h : Same s s') : s'.mirror = s.mirror := by
  unfold Subscriber.mirror
  rw [h.channels, h.patterns]

theorem Same.carries {s s' : Subscriber κ} (h : Same s s') (hs : s.Carries) : s'.Carries := by
  refine hs.congr ?_ h.mirror
  unfold sent RedisConnection.isConnected
  rw [h.connected, h.written, h.buffer]

variable {notify : Notification → EStateM Fault (Subscriber κ) Unit}

theorem idle_same (hn : Silent notify) : (owner notify).Idle Same where
  refl := Same.refl
  trans := Same.trans
  connected h := h.connected
  told s n _ := by
    have hsame : Same s ((owner notify).session.update (·.record n) s) :=
      ⟨rfl, rfl, rfl, rfl, rfl, rfl, rfl⟩
    have hnotify : (owner notify).notify n = notify n := rfl
    rw [hnotify, hn]
    exact hsame
  count _ := ⟨rfl, rfl, rfl, rfl, rfl, rfl, rfl⟩
  lookup s lookup := by
    obtain ⟨host, port, hafter⟩ := Session.after_getMasterAddrByName lookup s.toSession
    have hget : (owner notify).session.get s = s.toSession := rfl
    rw [hget, hafter]
    exact ⟨rfl, rfl, rfl, rfl, rfl, rfl, rfl⟩
  refuse _ _ := ⟨rfl, rfl, rfl, rfl, rfl, rfl, rfl⟩

/-- A new connection was opened, with the same bytes to be sent. -/
structure Opened (s s' : Subscriber κ) : Prop where
  connected : s'.client.client.connected = true
  written : s'.client.client.written = []
  buffer : s'.client.buffer = s.client.buffer
  handled : s'.client.disconnectionHandler = true
  reconnecting : s'.reconnecting = s.reconnecting
  channels : s'.subscribedChannels = s.subscribedChannels
  patterns : s'.psubscribedChannels = s.psubscribedChannels

theorem Opened.of_opens {s s' : Subscriber κ} (h : (owner notify).Opens Same s s') : Opened s s' := by
  obtain ⟨endpoint, s₀, hbefore, hafter⟩ := h
  exact ⟨hafter.connected, hafter.written, hafter.buffer.trans hbefore.buffer, hafter.handled,
    hafter.reconnecting.trans hbefore.reconnecting, hafter.channels.trans hbefore.channels,
    hafter.patterns.trans hbefore.patterns⟩

theorem Opened.mirror {s s' : Subscriber κ} (h : Opened s s') : s'.mirror = s.mirror := by
  unfold Subscriber.mirror
  rw [h.channels, h.patterns]

/-- Nothing was sent on the new connection but what was in the buffer. -/
theorem Opened.carries {s s' : Subscriber κ} (h : Opened s s')
    (hclosed : s.client.client.connected = false) (hs : s.Carries) : s'.Carries := by
  refine hs.congr ?_ h.mirror
  unfold sent RedisConnection.isConnected
  rw [h.connected, h.written, h.buffer, hclosed, if_pos rfl, if_neg Bool.false_ne_true]

/-! ## The invariant -/

/-- The commands sent make the key sets, and the next loss of the connection is noticed. -/
structure Mirrored (s : Subscriber κ) : Prop where
  carries : s.Carries
  reconnecting : s.reconnecting = false
  handled : s.client.client.connected = true → s.client.disconnectionHandler = true

theorem Mirrored.same {s s' : Subscriber κ} (h : Mirrored s) (hsame : Same s s') : Mirrored s' := by
  refine ⟨hsame.carries h.carries, hsame.reconnecting.trans h.reconnecting, fun hc => ?_⟩
  rw [hsame.handled]
  exact h.handled (hsame.connected.symm.trans hc)

theorem Mirrored.opened {s s' : Subscriber κ} (h : Mirrored s)
    (hclosed : s.client.client.connected = false) (hopened : Opened s s') : Mirrored s' :=
  ⟨hopened.carries hclosed h.carries, hopened.reconnecting.trans h.reconnecting,
    fun _ => hopened.handled⟩

/-- A command is sent, and the tables change as the server does. -/
theorem Mirrored.send {s s' : Subscriber κ} (h : Mirrored s) (redisCmd : Command)
    (hclient : s'.client = s.client.send redisCmd) (hreconnecting : s'.reconnecting = s.reconnecting)
    (hmirror : s'.mirror = s.mirror.execute redisCmd) : Mirrored s' := by
  refine ⟨h.carries.send redisCmd hclient hmirror, hreconnecting.trans h.reconnecting, fun hc => ?_⟩
  rw [hclient] at hc ⊢
  exact h.handled hc

theorem Mirrored.subscribe {s : Subscriber κ} (h : Mirrored s) (channel : Bytes)
    (callback acknowledgement : Option κ) : Mirrored (s.subscribe channel callback acknowledgement) :=
  h.send [ascii "SUBSCRIBE", channel] rfl rfl (mirror_subscribe s channel callback acknowledgement)

theorem Mirrored.psubscribe {s : Subscriber κ} (h : Mirrored s) (pattern : Bytes)
    (callback acknowledgement : Option κ) : Mirrored (s.psubscribe pattern callback acknowledgement) :=
  h.send [ascii "PSUBSCRIBE", pattern] rfl rfl (mirror_psubscribe s pattern callback acknowledgement)

theorem Mirrored.unsubscribe {s : Subscriber κ} (h : Mirrored s) (channel : Bytes) :
    Mirrored (s.unsubscribe channel) := by
  rcases s.unsubscribe_cases channel with hnone | ⟨hclient, hreconnecting, hmirror⟩
  · rw [hnone]
    exact h
  · exact h.send [ascii "UNSUBSCRIBE", channel] hclient hreconnecting hmirror

theorem Mirrored.punsubscribe {s : Subscriber κ} (h : Mirrored s) (pattern : Bytes) :
    Mirrored (s.punsubscribe pattern) := by
  rcases s.punsubscribe_cases pattern with hnone | ⟨hclient, hreconnecting, hmirror⟩
  · rw [hnone]
    exact h
  · exact h.send [ascii "PUNSUBSCRIBE", pattern] hclient hreconnecting hmirror

theorem Mirrored.auth {s : Subscriber κ} (h : Mirrored s) (password : Bytes) (callback : Option κ) :
    Mirrored (s.auth password callback) :=
  h.send [ascii "AUTH", password] rfl rfl (Server.execute_auth _ _).symm

/-- `connect`, however it ends. -/
theorem Mirrored.connect (hn : Silent notify) {s : Subscriber κ} (h : Mirrored s)
    (p : Session.ConnectParams) (accepted : Bool) :
    Mirrored (after (Subscriber.connect notify p accepted) s) := by
  have hsave : Same s ((owner notify).session.update (·.saveConnect p) s) :=
    ⟨rfl, rfl, rfl, rfl, rfl, rfl, rfl⟩
  rcases (idle_same hn).connect_saved p accepted rfl with hsame | ⟨hclosed, hopens⟩
  · exact h.same (hsave.trans hsame)
  · exact (h.same hsave).opened hclosed (.of_opens hopens)

theorem Mirrored.connectByName (hn : Silent notify) {s : Subscriber κ} (h : Mirrored s)
    (name : Bytes) (p : Session.ConnectParams) (lookup : Lookup) (accepted : Bool) :
    Mirrored (after (Subscriber.connectByName notify name p lookup accepted) s) := by
  unfold Subscriber.connectByName Owner.connectByName
  rw [after_modify_bind]
  have hname : Same s ((owner notify).session.update (fun t => { t with masterName := name }) s) :=
    ⟨rfl, rfl, rfl, rfl, rfl, rfl, rfl⟩
  have hlookup := (idle_same hn).lookup
    ((owner notify).session.update (fun t => { t with masterName := name }) s) lookup
  rw [← Lens.after_zoom] at hlookup
  have hfound := h.same (hname.trans hlookup)
  cases hzoom : (owner notify).session.zoom (Session.getMasterAddrByName lookup)
      ((owner notify).session.update (fun t => { t with masterName := name }) s) with
  | error e s₁ =>
    rw [after_error hzoom] at hfound
    rw [after_bind_error hzoom]
    exact hfound
  | ok found s₁ =>
    rw [after_ok hzoom] at hfound
    rw [after_bind_ok hzoom]
    cases found with
    | false => exact hfound
    | true => exact hfound.connect hn _ accepted

theorem Mirrored.commit {s : Subscriber κ} (h : Mirrored s)
    (hc : s.client.client.connected = true) : Mirrored (after Subscriber.commit s) := by
  have hcarries := h.carries.commit hc
  have hcommit : Subscriber.commit s = .ok () (connection.update RedisConnection.flush s) :=
    connection.zoom_ok (RedisConnection.commit_connected hc)
  rw [after_ok hcommit] at hcarries ⊢
  exact ⟨hcarries, h.reconnecting, fun _ => h.handled hc⟩

/-- The connection is lost, and its buffer is cleared. -/
def lost (s : Subscriber κ) : Subscriber κ :=
  connection.update RedisConnection.clear (connection.update RedisConnection.lose s)

/-- A silent connect callback is told anything. -/
theorem notifyState_same (hn : Silent notify) (state : ConnectState) (s : Subscriber κ) :
    Same s (after ((owner notify).notifyState state) s) := by
  unfold Owner.notifyState Owner.callConnectCallback
  rw [after_get_bind, after_get_bind]
  split
  · rw [after_modify_bind]
    have hnotify (n : Notification) : (owner notify).notify n = notify n := rfl
    rw [hnotify, hn]
    exact ⟨rfl, rfl, rfl, rfl, rfl, rfl, rfl⟩
  · exact .refl s

/-- A handler that has given up leaves both tables and the buffer empty. -/
theorem Mirrored.gaveUp {s : Subscriber κ} (hclosed : s.client.client.connected = false)
    (hbuffer : s.client.buffer = []) (hmirror : s.mirror = {}) :
    Mirrored ((owner notify).session.update Session.endReconnection s) := by
  refine ⟨⟨[], ?_, hmirror.symm⟩, rfl, fun hc => absurd (hclosed.symm.trans hc) Bool.false_ne_true⟩
  show (if s.client.client.connected then s.client.client.written else []) ++ s.client.buffer = []
  rw [hclosed, hbuffer]
  rfl

/-- A handler that has opened a connection leaves the tables as they were, and has sent both
of them. -/
theorem Mirrored.resumed {s s₁ s₂ : Subscriber κ} (hopened : Opened s s₁)
    (hbuffer : s.client.buffer = []) (hresumed : resume s₁ = .ok () s₂) :
    Mirrored ((owner notify).session.update Session.endReconnection s₂) ∧
      ∀ (table : Table) (key : Bytes), (table.entries s₂)[key]? = (table.entries s)[key]? := by
  obtain ⟨-, hclient, hentries⟩ := resume_ok hresumed
  refine ⟨⟨⟨s₁.resubscription, ?_, ?_⟩, rfl, fun _ => ?_⟩, fun table key => ?_⟩
  · show (if s₂.client.isConnected then s₂.client.client.written else []) ++ s₂.client.buffer = _
    rw [hclient]
    show (if s₁.client.client.connected then s₁.client.client.written ++
      (s₁.client.buffer ++ encodeCommands s₁.resubscription) else []) ++ [] = _
    rw [hopened.connected, hopened.written, hopened.buffer, hbuffer, if_pos rfl, List.append_nil]
    rfl
  · have hmirror : s₂.mirror = s₁.mirror := congrArg₂ Server.mk
      (Subscriptions.keySet_congr (hentries .channels))
      (Subscriptions.keySet_congr (hentries .patterns))
    rw [executeAll_resubscription, ← hmirror]
    rfl
  · show s₂.client.disconnectionHandler = true
    rw [hclient]
    exact hopened.handled
  · rw [hentries]
    cases table with
    | channels => exact congrArg (·[key]?) hopened.channels
    | patterns => exact congrArg (·[key]?) hopened.patterns

/-- A lost connection. A handler that was left has given up, or it has opened one. -/
theorem Mirrored.drop (hn : Silent notify) {attempts : List Attempt} {s s' : Subscriber κ}
    (h : Mirrored s) (hc : s.client.client.connected = true)
    (hd : Subscriber.drop notify id id attempts s = .ok true s') :
    Mirrored s' ∧ (s'.client.client.connected = true →
      ∀ (table : Table) (key : Bytes), (table.entries s')[key]? = (table.entries s)[key]?) := by
  unfold Subscriber.drop tcpClientDisconnectionHandler callDisconnectionHandler at hd
  have hset : (connection.get s.lost).disconnectionHandler = true := h.handled hc
  have hlost : connection.update RedisConnection.clear (id (connection.update RedisConnection.lose s)) =
      s.lost := rfl
  rw [modify_bind, modify_bind, modify_bind, hlost, get_bind, if_pos hset] at hd
  have hdropped := notifyState_same hn .dropped
    ((owner notify).session.update Session.beginReconnection s.lost)
  have hresume {s s' : Subscriber κ} (hr : resume s = .ok () s') :
      s.client.isConnected = true ∧ s'.client.isConnected = true := by
    obtain ⟨hc, hclient, -⟩ := resume_ok hr
    rw [hclient]
    exact ⟨hc, hc⟩
  have hidle : ((owner notify).session.get s.lost).reconnecting = false := h.reconnecting
  -- `s₀` is the state in which the handler takes the lock
  generalize hlock : after ((owner notify).notifyState .dropped)
    ((owner notify).session.update Session.beginReconnection s.lost) = s₀ at hdropped
  rcases (idle_same hn).handler_ok hresume hidle (show id _ = s₀ from hlock) hdropped.connected hd with
    ⟨s₁, s₂, s₃, hidle, hgiveUp, htold, rfl⟩ | ⟨s₁, s₂, hopens, hresumed, rfl⟩
  · cases hgiveUp
    have hclosed : s₃.client.client.connected = false :=
      htold.connected.trans (hidle.connected.trans hdropped.connected)
    have hbuffer : s₃.client.buffer = [] :=
      htold.buffer.trans (hidle.buffer.trans hdropped.buffer)
    exact ⟨.gaveUp hclosed hbuffer htold.mirror,
      fun hc' => absurd (hclosed.symm.trans hc') Bool.false_ne_true⟩
  · obtain ⟨hmirrored, hkept⟩ := Mirrored.resumed (.of_opens hopens) hdropped.buffer hresumed
    refine ⟨hmirrored, fun _ table key => (hkept table key).trans ?_⟩
    cases table with
    | channels => exact congrArg (·[key]?) hdropped.channels
    | patterns => exact congrArg (·[key]?) hdropped.patterns

/-! ## Runs -/

/-- What happens to a subscriber. The callbacks of a subscription may be null, and
`connect` may end in any way. -/
inductive MirrorEvent (κ : Type)
  | subscribe (table : Table) (key : Bytes) (callback acknowledgement : Option κ)
  | unsubscribe (table : Table) (key : Bytes)
  | auth (password : Bytes) (callback : Option κ)
  | commit
  | connect (p : Session.ConnectParams) (accepted : Bool)
  | connectByName (name : Bytes) (p : Session.ConnectParams) (lookup : Lookup) (accepted : Bool)
  | drop (attempts : List Attempt)

namespace MirrorEvent

def run (notify : Notification → EStateM Fault (Subscriber κ) Unit) (s : Subscriber κ) :
    MirrorEvent κ → Subscriber κ
  | subscribe .channels key callback acknowledgement => s.subscribe key callback acknowledgement
  | subscribe .patterns key callback acknowledgement => s.psubscribe key callback acknowledgement
  | unsubscribe .channels key => s.unsubscribe key
  | unsubscribe .patterns key => s.punsubscribe key
  | auth password callback => s.auth password callback
  | commit => after Subscriber.commit s
  | connect p accepted => after (Subscriber.connect notify p accepted) s
  | connectByName name p lookup accepted =>
    after (Subscriber.connectByName notify name p lookup accepted) s
  | drop attempts => after (Subscriber.drop notify id id attempts) s

/-- A commit succeeds, and the handler of a lost connection is left: it has connected
again or given up. -/
def Enabled (notify : Notification → EStateM Fault (Subscriber κ) Unit) (s : Subscriber κ) :
    MirrorEvent κ → Prop
  | commit => s.client.isConnected = true
  | drop attempts => s.client.isConnected = true ∧
      value (Subscriber.drop notify id id attempts) s = some true
  | _ => True

instance (notify : Notification → EStateM Fault (Subscriber κ) Unit) (s : Subscriber κ) :
    (e : MirrorEvent κ) → Decidable (Enabled notify s e)
  | subscribe _ _ _ _ => .isTrue trivial
  | unsubscribe _ _ => .isTrue trivial
  | auth _ _ => .isTrue trivial
  | commit => inferInstanceAs (Decidable (_ = _))
  | connect _ _ => .isTrue trivial
  | connectByName _ _ _ _ => .isTrue trivial
  | drop _ => inferInstanceAs (Decidable (_ ∧ _))

end MirrorEvent

/-- Subscribing, committing, connecting and losing the connection. -/
def mirrorMachine (notify : Notification → EStateM Fault (Subscriber κ) Unit) :
    Machine (Subscriber κ) (MirrorEvent κ) where
  enabled := MirrorEvent.Enabled notify
  step s e := e.run notify s

instance (notify : Notification → EStateM Fault (Subscriber κ) Unit) (s : Subscriber κ)
    (e : MirrorEvent κ) : Decidable ((mirrorMachine notify).enabled s e) :=
  inferInstanceAs (Decidable (e.Enabled notify s))

/-- Every step keeps the invariant. -/
theorem Mirrored.step (hn : Silent notify) {s : Subscriber κ} (h : Mirrored s) (e : MirrorEvent κ)
    (he : e.Enabled notify s) : Mirrored (e.run notify s) := by
  cases e with
  | subscribe table key callback acknowledgement =>
    cases table with
    | channels => exact h.subscribe key callback acknowledgement
    | patterns => exact h.psubscribe key callback acknowledgement
  | unsubscribe table key =>
    cases table with
    | channels => exact h.unsubscribe key
    | patterns => exact h.punsubscribe key
  | auth password callback => exact h.auth password callback
  | commit => exact h.commit he
  | connect p accepted => exact h.connect hn p accepted
  | connectByName name p lookup accepted => exact h.connectByName hn name p lookup accepted
  | drop attempts => exact (h.drop hn he.1 (eq_ok_of_value he.2)).1

/-- A session that was not connected yet. -/
structure Unused (t : Session) : Prop where
  connected : t.client.client.connected = false
  buffer : t.client.buffer = []
  reconnecting : t.reconnecting = false

theorem Mirrored.new {t : Session} (h : Unused t) : Mirrored ({ toSession := t } : Subscriber κ) := by
  refine ⟨⟨[], ?_, rfl⟩, h.reconnecting, fun hc => ?_⟩
  · show (if t.client.client.connected then t.client.client.written else []) ++ t.client.buffer = []
    rw [h.connected, h.buffer]
    rfl
  · exact absurd (h.connected.symm.trans hc) Bool.false_ne_true

/-- In every run, where the subscriber is connected and has nothing left to send, the
commands written on the current connection subscribe it to the key sets of its tables;
and a connection that is lost and opened again leaves the tables as they were. -/
theorem mirrors (hn : Silent notify) {t : Session} (ht : Unused t) (events : List (MirrorEvent κ))
    (h : (mirrorMachine notify).Possible { toSession := t } events) :
    let s := (mirrorMachine notify).run { toSession := t } events
    (s.client.isConnected = true → s.client.buffer = [] →
        ∃ cmds, decodeCommands s.client.client.written = some cmds ∧ executeAll cmds = s.mirror) ∧
      ∀ attempts, (mirrorMachine notify).enabled s (.drop attempts) →
        let s' := (mirrorMachine notify).step s (.drop attempts)
        s'.client.isConnected = true →
          ∀ (table : Table) (key : Bytes), (table.entries s')[key]? = (table.entries s)[key]? := by
  intro s
  have hmirrored : Mirrored s := h.invariant (fun s e hs he => hs.step hn e he) (.new ht)
  constructor
  · intro hc hbuffer
    obtain ⟨cmds, hcmds, hexecute⟩ := hmirrored.carries
    unfold sent at hcmds
    rw [hc, if_pos rfl, hbuffer, List.append_nil] at hcmds
    refine ⟨cmds, ?_, hexecute⟩
    rw [hcmds]
    exact decodeCommands_encodeCommands cmds
  · intro attempts he s' hc
    exact (hmirrored.drop hn he.1 (eq_ok_of_value he.2)).2 hc

/-- Two subscriptions of which one is taken back, a lost connection with a pattern not
sent yet, and a second attempt that is accepted. -/
def mirroredEvents : List (MirrorEvent Nat) :=
  [.subscribe .channels (ascii "news") (some 1) none,
    .connect ⟨ascii "h", 6379, true, 0, 2, 0⟩ true, .subscribe .channels (ascii "old") none (some 2),
    .commit, .unsubscribe .channels (ascii "old"), .subscribe .patterns (ascii "n*") (some 3) none,
    .drop [{ accepted := false }, { accepted := true }]]

theorem mirrors_reconnected :
    let s := (mirrorMachine fun _ => pure ()).run {} mirroredEvents
    (s.client.isConnected = true → s.client.buffer = [] →
        ∃ cmds, decodeCommands s.client.client.written = some cmds ∧ executeAll cmds = s.mirror) ∧
      ∀ attempts, (mirrorMachine fun _ => pure ()).enabled s (.drop attempts) →
        let s' := (mirrorMachine fun _ => pure ()).step s (.drop attempts)
        s'.client.isConnected = true →
          ∀ (table : Table) (key : Bytes), (table.entries s')[key]? = (table.entries s)[key]? :=
  mirrors (fun _ _ => rfl) ⟨rfl, rfl, rfl⟩ mirroredEvents (by decide +kernel)

end Subscriber

end CppRedis
