import CppRedis.Attempts
import CppRedis.Client

/-!
# What a reconnection writes

A reconnection that succeeds writes one buffer to the new connection. This module
computes it: what was in the buffer, then the AUTH and SELECT of `re_auth` and
`re_select`, then all of `m_commands`, and `m_commands` ends with that AUTH and
SELECT already, which are so written twice (`resume_ok`).

* `resume_client`: what the last lines of a reconnection do to the connection.
* `drop_once_iff`: each command is written once if and only if none was sent
  between the clearing of the buffer and the lock.

The connect callback may do anything that leaves the queue and the connection
alone (`Quiet`); while the lock is held it cannot do more without a deadlock.
-/

namespace CppRedis

open Text Procedure

namespace Client

variable {κ : Type}

/-! ## Sending a list of commands -/

/-- The commands of a list of entries. -/
def commandsOf (requests : List (CommandRequest κ)) : List Command :=
  requests.map CommandRequest.command

@[simp] theorem commandsOf_append (rs rs' : List (CommandRequest κ)) :
    commandsOf (rs ++ rs') = commandsOf rs ++ commandsOf rs' :=
  List.map_append

/-- `unprotected_send` of each entry of a list. -/
def unprotectedSendAll (requests : List (CommandRequest κ)) (c : Client κ) : Client κ :=
  requests.foldl (fun c request => c.unprotectedSend request) c

/-- The buffer and the queue grow by the same commands. -/
theorem unprotectedSendAll_eq (requests : List (CommandRequest κ)) (c : Client κ) :
    c.unprotectedSendAll requests =
      { c with
        client := { c.client with
          buffer := c.client.buffer ++ encodeCommands (commandsOf requests) }
        commands := c.commands ++ requests } := by
  induction requests generalizing c with
  | nil => simp [unprotectedSendAll, commandsOf]
  | cons request requests ih =>
    show (c.unprotectedSend request).unprotectedSendAll requests = _
    rw [ih]
    simp [unprotectedSend, RedisConnection.send, commandsOf, encodeCommands_cons]

theorem resendFailedCommands_eq (c : Client κ) :
    c.resendFailedCommands =
      { c with client := { c.client with
          buffer := c.client.buffer ++ encodeCommands (commandsOf c.commands) } } := by
  unfold resendFailedCommands
  split
  · next h =>
    have hnone : encodeCommands (commandsOf c.commands) = [] := by
      rw [List.isEmpty_iff.mp h]
      rfl
    rw [hnone, List.append_nil]
  · have := unprotectedSendAll_eq c.commands { c with commands := [] }
    unfold unprotectedSendAll at this
    rw [this]
    simp

/-! ## Restoring the session -/

/-- The entries that `re_auth` and `re_select` push. -/
def restored (c : Client κ) : List (CommandRequest κ) :=
  (if c.password.isEmpty then [] else [⟨[ascii "AUTH", c.password], some .reAuth⟩]) ++
    if c.databaseIndex ≤ 0 then []
    else [⟨[ascii "SELECT", decimalInt c.databaseIndex], some .reSelect⟩]

theorem restored_eq_nil_iff (c : Client κ) :
    c.restored = [] ↔ c.password = [] ∧ c.databaseIndex ≤ 0 := by
  unfold restored
  rw [List.append_eq_nil_iff]
  constructor
  · rintro ⟨hp, hd⟩
    constructor
    · by_contra h
      rw [if_neg (fun h' => h (List.isEmpty_iff.mp h'))] at hp
      cases hp
    · by_contra h
      rw [if_neg h] at hd
      cases hd
  · rintro ⟨hp, hd⟩
    exact ⟨if_pos (List.isEmpty_iff.mpr hp), if_pos hd⟩

/-- `re_auth` and `re_select` put the same entries into the queue and into the
buffer, and leave the password and the index as they are. -/
theorem restore_eq (c : Client κ) :
    c.reAuth.reSelect.client =
        { c.client with buffer := c.client.buffer ++ encodeCommands (commandsOf c.restored) } ∧
      c.reAuth.reSelect.commands = c.commands ++ c.restored := by
  unfold reAuth reSelect restored
  by_cases hp : c.password.isEmpty = true
  · by_cases hd : c.databaseIndex ≤ 0
    · simp [hp, hd, commandsOf]
    · simp [hp, hd, commandsOf, unprotectedSelect, push, unprotectedSend, RedisConnection.send,
        encodeCommands_singleton]
  · by_cases hd : c.databaseIndex ≤ 0
    · simp [hp, hd, commandsOf, unprotectedAuth, push, unprotectedSend, RedisConnection.send,
        encodeCommands_singleton]
    · simp [hp, hd, commandsOf, unprotectedAuth, unprotectedSelect, push, unprotectedSend,
        RedisConnection.send, encodeCommands_cons]

/-- The last lines of `reconnect`, up to the commit: what is restored is in the
queue when the queue is sent again. -/
theorem resent_eq (c : Client κ) :
    c.reAuth.reSelect.resendFailedCommands.client =
        { c.client with buffer := c.client.buffer ++
            encodeCommands (commandsOf (c.restored ++ (c.commands ++ c.restored))) } ∧
      c.reAuth.reSelect.resendFailedCommands.commands = c.commands ++ c.restored := by
  obtain ⟨hclient, hcommands⟩ := restore_eq c
  rw [resendFailedCommands_eq]
  dsimp only
  rw [hclient, hcommands]
  refine ⟨?_, rfl⟩
  simp [commandsOf, encodeCommands_append]

/-! ## Committing -/

theorem tryCommit_connected {c : Client κ} (h : c.client.client.connected = true) :
    tryCommit c = .ok () (connection.update RedisConnection.flush c) := by
  have hcommit := connection.zoom_ok (s := c) (RedisConnection.commit_connected h)
  exact catch_ok hcommit _

theorem tryCommit_disconnected {c : Client κ} (h : c.client.client.connected = false) :
    tryCommit c = .error (.redisError c.client.client.what)
      { c with client := c.client.discard }.clearCallbacks := by
  have hcommit := connection.zoom_error (s := c) (RedisConnection.commit_disconnected h)
  exact catch_error hcommit _

theorem commit_eq_tryCommit {c : Client κ} (h : c.reconnecting = false) : commit c = tryCommit c := by
  unfold commit
  rw [get_bind, h]
  rfl

/-- A reconnection whose last lines return has written the buffer, what it
restored, and the queue, which holds what it restored too. -/
theorem resume_client {c c' : Client κ} (h : resume c = .ok () c') :
    c.client.client.connected = true ∧
      c'.client = RedisConnection.flush
        { c.client with buffer := c.client.buffer ++
            encodeCommands (commandsOf (c.restored ++ (c.commands ++ c.restored))) } ∧
      c'.commands = c.commands ++ c.restored := by
  obtain ⟨hclient, hcommands⟩ := resent_eq c
  have hresume : tryCommit c.reAuth.reSelect.resendFailedCommands = .ok () c' := h
  cases hc : c.client.client.connected with
  | false =>
    rw [tryCommit_disconnected (by rw [hclient]; exact hc)] at hresume
    cases hresume
  | true =>
    rw [tryCommit_connected (by rw [hclient]; exact hc)] at hresume
    cases hresume
    exact ⟨rfl, congrArg RedisConnection.flush hclient, hcommands⟩

theorem resume_ok {c c' : Client κ} (h : resume c = .ok () c') :
    c.client.client.connected = true ∧ c'.client.client.connected = true ∧
      c'.client.client.written = c.client.client.written ++ (c.client.buffer ++
        encodeCommands (commandsOf (c.restored ++ (c.commands ++ c.restored)))) ∧
      c'.client.buffer = [] ∧ c'.commands = c.commands ++ c.restored := by
  obtain ⟨hc, hclient, hcommands⟩ := resume_client h
  rw [hclient]
  exact ⟨hc, hc, rfl, rfl, hcommands⟩

/-! ## An attempt that succeeds -/

/-- The two states differ in what is only recorded: the connection is as open as
it was, and has the same bytes behind and before it. -/
structure Same (c c' : Client κ) : Prop where
  connected : c'.client.client.connected = c.client.client.connected
  written : c'.client.client.written = c.client.client.written
  buffer : c'.client.buffer = c.client.buffer
  commands : c'.commands = c.commands
  password : c'.password = c.password
  databaseIndex : c'.databaseIndex = c.databaseIndex

theorem Same.refl (c : Client κ) : Same c c :=
  ⟨rfl, rfl, rfl, rfl, rfl, rfl⟩

theorem Same.trans {c₁ c₂ c₃ : Client κ} (h : Same c₁ c₂) (h' : Same c₂ c₃) : Same c₁ c₃ :=
  ⟨h'.connected.trans h.connected, h'.written.trans h.written, h'.buffer.trans h.buffer,
    h'.commands.trans h.commands, h'.password.trans h.password,
    h'.databaseIndex.trans h.databaseIndex⟩

/-- A new connection was opened, with the same commands to be sent. -/
structure Opened (c c' : Client κ) : Prop where
  connected : c'.client.client.connected = true
  written : c'.client.client.written = []
  buffer : c'.client.buffer = c.client.buffer
  commands : c'.commands = c.commands
  password : c'.password = c.password
  databaseIndex : c'.databaseIndex = c.databaseIndex

theorem Same.opened {c₁ c₂ c₃ : Client κ} (h : Same c₁ c₂) (h' : Opened c₂ c₃) : Opened c₁ c₃ :=
  ⟨h'.connected, h'.written, h'.buffer.trans h.buffer, h'.commands.trans h.commands,
    h'.password.trans h.password, h'.databaseIndex.trans h.databaseIndex⟩

theorem Opened.restored_eq {c c' : Client κ} (h : Opened c c') : c'.restored = c.restored := by
  unfold restored
  rw [h.password, h.databaseIndex]

/-- Other than when the connection was dropped, the connect callback returns and
calls nothing that would touch the queue or the connection. -/
def Quiet (notify : Notification → EStateM Fault (Client κ) Unit) : Prop :=
  ∀ n, n.state ≠ .dropped → ∀ c, ∃ c', notify n c = .ok () c' ∧ Same c c'

/-- A connect callback that does nothing. -/
def silent : Notification → EStateM Fault (Client κ) Unit :=
  fun _ => pure ()

theorem quiet_silent : Quiet (silent : Notification → EStateM Fault (Client κ) Unit) :=
  fun _ _ c => ⟨c, rfl, .refl c⟩

variable {notify : Notification → EStateM Fault (Client κ) Unit}

/-- So a failed attempt leaves the two alone. -/
theorem idle_same (hq : Quiet notify) : (owner notify).Idle Same where
  refl := Same.refl
  trans := Same.trans
  connected h := h.connected
  told c n hn := by
    have hrecord : Same c ((owner notify).session.update (·.record n) c) :=
      ⟨rfl, rfl, rfl, rfl, rfl, rfl⟩
    obtain ⟨c', hok, hsame⟩ := hq n hn ((owner notify).session.update (·.record n) c)
    have hnotify : (owner notify).notify n = notify n := rfl
    rw [hnotify, after_ok hok]
    exact hrecord.trans hsame
  count _ := ⟨rfl, rfl, rfl, rfl, rfl, rfl⟩
  lookup c lookup := by
    obtain ⟨host, port, hafter⟩ := Session.after_getMasterAddrByName lookup c.toSession
    have hget : (owner notify).session.get c = c.toSession := rfl
    rw [hget, hafter]
    exact ⟨rfl, rfl, rfl, rfl, rfl, rfl⟩
  refuse _ _ := ⟨rfl, rfl, rfl, rfl, rfl, rfl⟩

theorem Opened.of_opens {c c' : Client κ} (h : (owner notify).Opens Same c c') : Opened c c' := by
  obtain ⟨endpoint, c₀, hbefore, hafter⟩ := h
  exact ⟨hafter.connected, hafter.written, hafter.buffer.trans hbefore.buffer,
    hafter.commands.trans hbefore.commands, hafter.password.trans hbefore.password,
    hafter.databaseIndex.trans hbefore.databaseIndex⟩

/-- `resume` returns only if its commit finds the connection open. -/
theorem resume_connected {c c' : Client κ} (h : (owner notify).resume c = .ok () c') :
    ((owner notify).session.get c).isConnected = true ∧
      ((owner notify).session.get c').isConnected = true :=
  ⟨(resume_ok h).1, (resume_ok h).2.1⟩

/-! ## The handler -/

/-- Calls of `send` one after the other. -/
def sendAll (calls : List (Command × Option κ)) (c : Client κ) : Client κ :=
  calls.foldl (fun c call => c.send call.1 call.2) c

/-- The entries that calls of `send` push. -/
def requestsOf (calls : List (Command × Option κ)) : List (CommandRequest κ) :=
  calls.map fun call => ⟨call.1, call.2.map .user⟩

theorem commandsOf_requestsOf (calls : List (Command × Option κ)) :
    commandsOf (requestsOf calls) = calls.map Prod.fst := by
  simp [commandsOf, requestsOf]

theorem sendAll_append (calls calls' : List (Command × Option κ)) (c : Client κ) :
    c.sendAll (calls ++ calls') = (c.sendAll calls).sendAll calls' :=
  List.foldl_append

theorem sendAll_eq (calls : List (Command × Option κ)) (c : Client κ) :
    c.sendAll calls =
      { c with
        client := { c.client with
          buffer := c.client.buffer ++ encodeCommands (calls.map Prod.fst) }
        commands := c.commands ++ requestsOf calls
        pushed := c.pushed ++ requestsOf calls } := by
  induction calls generalizing c with
  | nil => simp [sendAll, requestsOf]
  | cons call calls ih =>
    show (c.send call.1 call.2).sendAll calls = _
    rw [ih]
    simp [send, push, unprotectedSend, RedisConnection.send, requestsOf, encodeCommands_cons]

theorem Same.sendAll {c c' : Client κ} (h : Same c c') (calls : List (Command × Option κ)) :
    Same (c.sendAll calls) (c'.sendAll calls) := by
  rw [sendAll_eq, sendAll_eq]
  refine ⟨h.connected, h.written, ?_, ?_, h.password, h.databaseIndex⟩
  · show c'.client.buffer ++ _ = c.client.buffer ++ _
    rw [h.buffer]
  · show c'.commands ++ _ = c.commands ++ _
    rw [h.commands]

/-- What is sent while the disconnection handler is running and has not taken
the lock yet: `told` by the connect callback, if it is set, and `others` by other
threads. -/
def duringDrop (c : Client κ) (told others : List (Command × Option κ)) :
    List (Command × Option κ) :=
  (if c.connectCallback then told else []) ++ others

theorem duringDrop_nil (c : Client κ) : duringDrop c [] [] = [] := by
  unfold duringDrop
  split <;> rfl

/-- A handler that ends connected has opened a connection with what was sent
before it took the lock in the buffer and in the queue. -/
theorem connectionDisconnectionHandler_ok (hq : Quiet notify)
    {told others : List (Command × Option κ)}
    (htold : ∀ n, n.state = .dropped → ∀ c, notify n c = .ok () (c.sendAll told))
    {attempts : List Attempt} {c c' : Client κ} (hr : c.reconnecting = false)
    (hc : c.client.client.connected = false)
    (h : connectionDisconnectionHandler notify (sendAll others) attempts c = .ok true c')
    (hc' : c'.client.client.connected = true) :
    ∃ c₁ c₂, Opened (c.sendAll (duringDrop c told others)) c₁ ∧ resume c₁ = .ok () c₂ ∧
      Same c₂ c' := by
  have hdropped : Same (c.sendAll (if c.connectCallback then told else []))
      (after ((owner notify).notifyState .dropped)
        ((owner notify).session.update Session.beginReconnection c)) := by
    unfold Owner.notifyState Owner.callConnectCallback
    rw [after_get_bind, after_get_bind]
    have hset : ((owner notify).session.get
        ((owner notify).session.update Session.beginReconnection c)).connectCallback =
          c.connectCallback := rfl
    rw [hset]
    cases hcb : c.connectCallback with
    | true =>
      have hsame : Same c ((owner notify).session.update (·.record ⟨c.redisServer, c.redisPort, .dropped⟩)
          ((owner notify).session.update Session.beginReconnection c)) :=
        ⟨rfl, rfl, rfl, rfl, rfl, rfl⟩
      have htell := htold ⟨c.redisServer, c.redisPort, .dropped⟩ rfl
        ((owner notify).session.update (·.record ⟨c.redisServer, c.redisPort, .dropped⟩)
          ((owner notify).session.update Session.beginReconnection c))
      rw [if_pos rfl, if_pos rfl, after_modify_bind]
      have hnotify : (owner notify).notify = notify := rfl
      rw [hnotify]
      have hsent := hsame.sendAll told
      rw [← after_ok htell] at hsent
      exact hsent
    | false =>
      rw [if_neg Bool.false_ne_true, if_neg Bool.false_ne_true]
      exact ⟨rfl, rfl, rfl, rfl, rfl, rfl⟩
  -- what was sent when the handler takes the lock
  have hlock : Same (c.sendAll (duringDrop c told others))
      ((after ((owner notify).notifyState .dropped)
        ((owner notify).session.update Session.beginReconnection c)).sendAll others) := by
    unfold duringDrop
    rw [sendAll_append]
    exact hdropped.sendAll others
  have hclosed : (c.sendAll (duringDrop c told others)).client.client.connected = false := by
    rw [sendAll_eq]
    exact hc
  rcases (idle_same hq).handler_ok resume_connected hr rfl (hlock.connected.trans hclosed) h with
    ⟨c₁, c₂, c₃, hstop, hgiveUp, hsame, rfl⟩ | ⟨c₁, c₂, hopens, hresume, rfl⟩
  · have hc₂ : c₁.clearCallbacks = c₂ := after_ok hgiveUp
    have hlost : c₃.client.client.connected = false := by
      rw [hsame.connected, ← hc₂, clearCallbacks_client, hstop.connected]
      exact hlock.connected.trans hclosed
    exact absurd (hlost.symm.trans hc') Bool.false_ne_true
  · exact ⟨c₁, c₂, hlock.opened (.of_opens hopens), hresume, ⟨rfl, rfl, rfl, rfl, rfl, rfl⟩⟩

/-- The state in which the handler of a lost connection is called: the commands
that other threads sent before it cleared the buffer are in the queue only. -/
def dropped (before : List (Command × Option κ)) (c : Client κ) : Client κ :=
  { c with
    client := c.client.lose.clear
    commands := c.commands ++ requestsOf before
    pushed := c.pushed ++ requestsOf before }

theorem clear_sendAll (before : List (Command × Option κ)) (c : Client κ) :
    connection.update RedisConnection.clear ((connection.update RedisConnection.lose c).sendAll before) =
      c.dropped before := by
  rw [sendAll_eq]
  rfl

/-- What a client has written when it is connected again: the commands sent after
the buffer was cleared stand in front of what is restored, and in the queue too. -/
theorem drop_written (hq : Quiet notify) {told before others : List (Command × Option κ)}
    (htold : ∀ n, n.state = .dropped → ∀ c, notify n c = .ok () (c.sendAll told))
    {attempts : List Attempt} {c c' : Client κ} (hset : c.client.disconnectionHandler = true)
    (hr : c.reconnecting = false)
    (h : drop notify (sendAll before) (sendAll others) attempts c = .ok true c')
    (hc' : c'.client.client.connected = true) :
    c'.client.client.written = encodeCommands ((duringDrop c told others).map Prod.fst ++
      (commandsOf c.restored ++ (commandsOf c.commands ++ before.map Prod.fst ++
        (duringDrop c told others).map Prod.fst ++ commandsOf c.restored))) := by
  unfold drop tcpClientDisconnectionHandler callDisconnectionHandler at h
  have hset' : (connection.get (c.dropped before)).disconnectionHandler = true := hset
  rw [modify_bind, modify_bind, modify_bind, clear_sendAll, get_bind, if_pos hset'] at h
  obtain ⟨c₁, c₂, hopened, hresume, hsame⟩ :=
    connectionDisconnectionHandler_ok hq htold (c := c.dropped before) hr rfl h hc'
  obtain ⟨-, -, hwritten, -, -⟩ := resume_ok hresume
  have hrestored : c₁.restored = c.restored := by
    rw [hopened.restored_eq, sendAll_eq]
    rfl
  have hduring : (c.dropped before).duringDrop told others = c.duringDrop told others := rfl
  rw [hsame.written, hwritten, hopened.written, hopened.buffer, hopened.commands, hrestored,
    sendAll_eq, hduring]
  simp [dropped, RedisConnection.clear, commandsOf_requestsOf]

/-- A client without password and database that is connected again has written
each command that was pending, or sent since the connection was lost, exactly
once if and only if none was sent between the clearing of the buffer and the lock. -/
theorem drop_once_iff (hq : Quiet notify) {told before others : List (Command × Option κ)}
    (htold : ∀ n, n.state = .dropped → ∀ c, notify n c = .ok () (c.sendAll told))
    {attempts : List Attempt} {c c' : Client κ} (hset : c.client.disconnectionHandler = true)
    (hr : c.reconnecting = false) (hp : c.password = []) (hi : c.databaseIndex = 0)
    (h : drop notify (sendAll before) (sendAll others) attempts c = .ok true c')
    (hc' : c'.client.client.connected = true) :
    (∃ cmds, decodeCommands c'.client.client.written = some cmds ∧
        cmds.Perm (commandsOf c.commands ++ before.map Prod.fst ++
          (duringDrop c told others).map Prod.fst)) ↔
      duringDrop c told others = [] := by
  have hnone : c.restored = [] := (restored_eq_nil_iff c).mpr ⟨hp, Int.le_of_eq hi⟩
  rw [drop_written hq htold hset hr h hc', decodeCommands_encodeCommands, hnone]
  constructor
  · rintro ⟨cmds, hcmds, hperm⟩
    cases hcmds
    have hlen := hperm.length_eq
    simp only [commandsOf, List.length_append, List.length_map, List.length_nil] at hlen
    exact List.length_eq_zero_iff.mp (by omega)
  · intro hduring
    refine ⟨_, rfl, ?_⟩
    rw [hduring]
    simp [commandsOf]

/-- A connect callback that sends some commands when the connection was dropped. -/
def telling (told : List (Command × Option κ)) : Notification → EStateM Fault (Client κ) Unit :=
  fun n => if n.state = .dropped then modify (sendAll told) else pure ()

/-- A connected client that may reconnect twice, with one pending command. -/
def connectedGet : Client Nat where
  connectCallback := true
  maxReconnects := 2
  client := { client := { connected := true, reads := 1 }
              replyCallback := true
              disconnectionHandler := true }
  commands := [⟨[ascii "GET", ascii "k"], some (.user 0)⟩]

/-- Two attempts to connect again, the first one refused. -/
def secondAttempt : List Attempt :=
  [{ accepted := false }, { accepted := true }]

/-- A command sent before the buffer was cleared is written once. -/
theorem drop_once_iff_before :
    (∃ cmds, decodeCommands (after (drop silent (sendAll [([ascii "INCR", ascii "n"], some 1)])
          (sendAll []) secondAttempt) connectedGet).client.client.written = some cmds ∧
        cmds.Perm (commandsOf connectedGet.commands ++ [[ascii "INCR", ascii "n"]] ++
          (duringDrop connectedGet [] []).map Prod.fst)) ↔
      duringDrop connectedGet [] [] = [] :=
  drop_once_iff quiet_silent (fun _ _ _ => rfl) rfl rfl rfl rfl (eq_ok_of_value (by decide +kernel))
    (by decide +kernel)

/-- INCR, sent by the connect callback when it is told that the connection was
dropped, is written twice. -/
theorem not_drop_once :
    ¬ ∀ (told before others : List (Command × Option Nat)) (attempts : List Attempt)
      (c c' : Client Nat), c.client.disconnectionHandler = true → c.reconnecting = false →
      c.password = [] → c.databaseIndex = 0 →
      drop (telling told) (sendAll before) (sendAll others) attempts c = .ok true c' →
      c'.client.client.connected = true →
      ∃ cmds, decodeCommands c'.client.client.written = some cmds ∧
        cmds.Perm (commandsOf c.commands ++ before.map Prod.fst ++
          (duringDrop c told others).map Prod.fst) := by
  intro h
  obtain ⟨cmds, hcmds, hperm⟩ := h [([ascii "INCR", ascii "n"], some 1)] [] [] secondAttempt
    connectedGet _ rfl rfl rfl rfl (eq_ok_of_value (by decide +kernel)) (by decide +kernel)
  have hdecode : decodeCommands (after (drop (telling [([ascii "INCR", ascii "n"], some 1)])
      (sendAll []) (sendAll []) secondAttempt) connectedGet).client.client.written =
        some [[ascii "INCR", ascii "n"], [ascii "GET", ascii "k"], [ascii "INCR", ascii "n"]] := by
    decide +kernel
  have hlen := hperm.length_eq
  have := Option.some.inj (hcmds.symm.trans hdecode)
  rw [this] at hlen
  exact absurd hlen (by decide)

end Client

end CppRedis
