import CppRedis.Runs
import CppRedis.Wire

/-!
# What is written

Whatever happens to a client or to a subscriber, the bytes of its connection are those of
whole commands, and these are commands that it was given or has to restore: nothing is torn
when a connection is lost in between, and nothing is written that nobody has asked for.

* `RedisConnection.Whole`: the bytes written and those in the buffer are those of commands
  with a property. Each change of a connection keeps it.
* `Client.client_written_whole`, `Subscriber.subscriber_written_whole`: in every state of every
  run.
-/

namespace CppRedis

open Text Procedure

/-! ## The connection -/

theorem TcpClient.written_asyncRead (t : TcpClient) : (after asyncRead t).written = t.written := by
  obtain ⟨connected, _, _, _, _⟩ := t
  cases connected <;> rfl

namespace RedisConnection

variable {Q Q' : Command → Prop} {c : RedisConnection}

/-- The bytes written and those in the buffer are those of commands with the property `Q`. -/
def Whole (Q : Command → Prop) (c : RedisConnection) : Prop :=
  ∃ sent held, c.client.written = encodeCommands sent ∧ c.buffer = encodeCommands held ∧
    ∀ cmd ∈ sent ++ held, Q cmd

namespace Whole

theorem mono (h : c.Whole Q) (hQ : ∀ cmd, Q cmd → Q' cmd) : c.Whole Q' := by
  obtain ⟨sent, held, hwritten, hbuffer, hall⟩ := h
  exact ⟨sent, held, hwritten, hbuffer, fun cmd hcmd => hQ cmd (hall cmd hcmd)⟩

/-- A change that leaves the bytes as they are. -/
theorem of_eq (h : c.Whole Q) {c' : RedisConnection} (hwritten : c'.client.written = c.client.written)
    (hbuffer : c'.buffer = c.buffer) : c'.Whole Q := by
  obtain ⟨sent, held, hsent, hheld, hall⟩ := h
  exact ⟨sent, held, hwritten.trans hsent, hbuffer.trans hheld, hall⟩

/-- The buffer is thrown away. -/
theorem emptied (h : c.Whole Q) {c' : RedisConnection} (hwritten : c'.client.written = c.client.written)
    (hbuffer : c'.buffer = []) : c'.Whole Q := by
  obtain ⟨sent, held, hsent, -, hall⟩ := h
  exact ⟨sent, [], hwritten.trans hsent, hbuffer, fun cmd hcmd =>
    hall cmd (List.mem_append_left _ (List.append_nil sent ▸ hcmd))⟩

theorem send (h : c.Whole Q) {redisCmd : Command} (hcmd : Q redisCmd) : (c.send redisCmd).Whole Q := by
  obtain ⟨sent, held, hsent, hheld, hall⟩ := h
  refine ⟨sent, held ++ [redisCmd], hsent, ?_, fun cmd hmem => ?_⟩
  · show c.buffer ++ buildCommand redisCmd = _
    rw [hheld, encodeCommands_append, encodeCommands_singleton]
  · rw [← List.append_assoc] at hmem
    rcases List.mem_append.mp hmem with hold | hnew
    · exact hall cmd hold
    · exact List.mem_singleton.mp hnew ▸ hcmd

/-- Several commands at once. -/
theorem sendAll (h : c.Whole Q) {cmds : List Command} (hcmds : ∀ cmd ∈ cmds, Q cmd) :
    Whole Q { c with buffer := c.buffer ++ encodeCommands cmds } := by
  obtain ⟨sent, held, hsent, hheld, hall⟩ := h
  refine ⟨sent, held ++ cmds, hsent, ?_, fun cmd hmem => ?_⟩
  · show c.buffer ++ encodeCommands cmds = _
    rw [hheld, encodeCommands_append]
  · rw [← List.append_assoc] at hmem
    rcases List.mem_append.mp hmem with hold | hnew
    · exact hall cmd hold
    · exact hcmds cmd hnew

/-- A buffer that is taken goes behind what was written; one that is not is gone. -/
theorem commit (h : c.Whole Q) : (after commit c).Whole Q := by
  cases hc : c.client.connected with
  | true =>
    rw [after_ok (commit_connected hc)]
    obtain ⟨sent, held, hsent, hheld, hall⟩ := h
    refine ⟨sent ++ held, [], ?_, rfl, (List.append_nil (sent ++ held)).symm ▸ hall⟩
    show c.client.written ++ c.buffer = _
    rw [hsent, hheld, encodeCommands_append]
  | false =>
    rw [after_error (commit_disconnected hc)]
    exact h.emptied rfl rfl

/-- A new connection starts with nothing written, and the buffer stays. -/
theorem connect (h : c.Whole Q) (host : Bytes) (port timeoutMsecs : Nat) (accepted : Bool) :
    (after (connect host port true true timeoutMsecs accepted) c).Whole Q := by
  by_cases hrefused : c.client.connected = true ∨ accepted = false
  · rw [after_error (connect_refused host port true true timeoutMsecs hrefused)]
    exact h.of_eq rfl rfl
  · rw [not_or, Bool.not_eq_true, Bool.not_eq_false] at hrefused
    obtain ⟨hc, rfl⟩ := hrefused
    rw [after_ok (connect_accepted host port true true timeoutMsecs hc)]
    obtain ⟨sent, held, -, hheld, hall⟩ := h
    exact ⟨[], held, rfl, hheld, fun cmd hcmd => hall cmd (List.mem_append_right _ hcmd)⟩

end Whole

end RedisConnection

/-! ## The session -/

namespace Session

open RedisConnection (Whole)

variable {Q : Command → Prop} {s t : Session}

theorem Call.whole (h : Call s t) (hs : s.client.Whole Q) : t.client.Whole Q := by
  cases h with
  | lookup lookup =>
    obtain ⟨host, port, h⟩ := s.after_getMasterAddrByName lookup
    rw [h]
    exact hs
  | dial host port timeoutMsecs accepted =>
    rw [Lens.after_zoom]
    exact hs.connect host port timeoutMsecs accepted
  | _ => exact hs

theorem Inner.whole (h : Inner s t) (hs : s.client.Whole Q) : t.client.Whole Q := by
  cases h with
  | lose => exact hs.emptied rfl rfl
  | drop => exact hs.of_eq rfl rfl
  | parse builder => exact hs.of_eq rfl rfl
  | asyncRead =>
    dsimp only
    rw [Lens.after_zoom]
    exact hs.of_eq s.client.client.written_asyncRead rfl
  | clear => exact hs.emptied rfl rfl
  | _ => exact hs

end Session

/-! ## The client -/

namespace Client

variable {κ : Type} {c c' : Client κ}

/-- An entry as it can be pushed: those of `re_auth` and `re_select` have their own commands. -/
def Authentic (request : CommandRequest κ) : Prop :=
  match request.callback with
  | some .reAuth => ∃ password, password ≠ [] ∧ request.command = [ascii "AUTH", password]
  | some .reSelect => ∃ index : Int, 0 < index ∧ request.command = [ascii "SELECT", decimalInt index]
  | _ => True

/-- A command of an entry that was pushed. -/
def Issued (c : Client κ) (cmd : Command) : Prop :=
  ∃ request ∈ c.pushed, request.command = cmd

theorem Issued.mono {cmd : Command} (h : c.Issued cmd) (hpushed : c.pushed <+: c'.pushed) :
    c'.Issued cmd := by
  obtain ⟨request, hmem, hcmd⟩ := h
  exact ⟨request, hpushed.subset hmem, hcmd⟩

/-- The bytes of the connection are those of commands that were pushed. -/
structure Written (c : Client κ) : Prop where
  accounted : Accounted c
  authentic : ∀ request ∈ c.pushed, Authentic request
  whole : c.client.Whole c.Issued

namespace Written

theorem session (h : Written c) {s : Session} (hs : s.client.Whole c.Issued) :
    Written (Client.session.set s c) :=
  ⟨h.accounted.move (.session s), h.authentic, hs⟩

theorem push (h : Written c) {request : CommandRequest κ} (hrequest : Authentic request) :
    Written (c.push request) := by
  refine ⟨h.accounted.push request, fun request' hmem => ?_, ?_⟩
  · rcases List.mem_append.mp hmem with hold | hnew
    · exact h.authentic request' hold
    · exact List.mem_singleton.mp hnew ▸ hrequest
  · have hpushed : c.pushed <+: (c.push request).pushed := List.prefix_append _ _
    refine (h.whole.mono fun cmd hcmd => hcmd.mono hpushed).send ?_
    exact ⟨request, List.mem_append_right _ (List.mem_singleton.mpr rfl), rfl⟩

theorem clearCallbacks (h : Written c) : Written c.clearCallbacks := by
  refine ⟨h.accounted.clearCallbacks, ?_, ?_⟩
  · rw [clearCallbacks_pushed]
    exact h.authentic
  · have hpushed : c.pushed <+: c.clearCallbacks.pushed :=
      (clearCallbacks_pushed c).symm ▸ List.prefix_refl c.pushed
    rw [clearCallbacks_client]
    exact h.whole.mono fun cmd hcmd => hcmd.mono hpushed

theorem tryCommit (h : Written c) : Written (after tryCommit c) := by
  have hcommit := h.whole.commit
  cases hc : c.client.client.connected with
  | true =>
    rw [after_ok (RedisConnection.commit_connected hc)] at hcommit
    rw [after_ok (tryCommit_connected hc)]
    exact h.session (s := Session.connection.update RedisConnection.flush c.toSession) hcommit
  | false =>
    rw [after_error (RedisConnection.commit_disconnected hc)] at hcommit
    rw [after_error (tryCommit_disconnected hc)]
    exact (h.session (s := Session.connection.set c.client.discard c.toSession)
      hcommit).clearCallbacks

/-- The commands of the queue were pushed. -/
theorem resendFailedCommands (h : Written c) : Written c.resendFailedCommands := by
  have haccounted := h.accounted.resendFailedCommands
  rw [resendFailedCommands_eq] at haccounted ⊢
  refine ⟨haccounted, h.authentic, h.whole.sendAll fun cmd hcmd => ?_⟩
  obtain ⟨request, hrequest, rfl⟩ := List.mem_map.mp hcmd
  refine ⟨request, h.accounted.entries.mem_iff.mpr ?_, rfl⟩
  exact List.mem_append_right _ (List.mem_append_left _ hrequest)

theorem call (h : Written c) (hcall : Call c c') : Written c' := by
  have hentry (redisCmd : Command) (callback : Option κ) :
      Authentic ⟨redisCmd, callback.map Callback.user⟩ := by
    cases callback <;> trivial
  cases hcall with
  | session hs => exact h.session (hs.whole h.whole)
  | send redisCmd callback => exact h.push (hentry redisCmd callback)
  | auth password callback =>
    exact (h.session (s := { c.toSession with password := password }) h.whole).push (hentry _ callback)
  | select index callback =>
    have hindex : Written { c with databaseIndex := index } :=
      ⟨h.accounted.move (.index index), h.authentic, h.whole⟩
    exact hindex.push (hentry _ callback)
  | commit =>
    unfold Client.commit
    rw [after_get_bind]
    split
    · exact h.tryCommit
    · exact h
  | disconnect =>
    exact (h.session (s := Session.connection.set c.client.disconnect c.toSession)
      (h.whole.emptied rfl rfl)).clearCallbacks

theorem step (h : Written c) (hstep : Step Call c c') : Written c' := by
  cases hstep with
  | user hcall => exact h.call hcall
  | session hs => exact h.session (hs.whole h.whole)
  | inner hs => exact h.session (hs.whole h.whole)
  | reAuth =>
    unfold Client.reAuth
    split
    · exact h
    · next hpassword =>
      refine (h.session (s := { c.toSession with password := c.password }) h.whole).push ?_
      exact ⟨c.password, fun hempty => hpassword (hempty ▸ rfl), rfl⟩
  | reSelect =>
    unfold Client.reSelect
    split
    · exact h
    · next hindex =>
      have hsame : Written { c with databaseIndex := c.databaseIndex } := h
      exact hsame.push ⟨c.databaseIndex, not_le.mp hindex, rfl⟩
  | resendFailedCommands => exact h.resendFailedCommands
  | tryCommit => exact h.tryCommit
  | clearCallbacks => exact h.clearCallbacks
  | answerFront reply => exact ⟨h.accounted.answerFront reply, h.authentic, h.whole⟩
  | countDown => exact ⟨h.accounted.move .countDown, h.authentic, h.whole⟩

theorem failed (h : Written c) (hfailed : Failed c c') : Written c' := by
  cases hfailed with
  | failFront i request rest hi => exact ⟨h.accounted.failFront hi, h.authentic, h.whole⟩

/-- A client that was made with a new connection. -/
theorem new (s : Session) (what : String) :
    Written ({ toSession := { s with client := { client := { what := what } } } } : Client κ) :=
  ⟨.new _, nofun, [], [], rfl, rfl, nofun⟩

end Written

/-- In every state of every run, what was written to the connection and what is in the buffer
are whole commands, and each of them is the command of an entry that was pushed: by a call of
the user, or by `re_auth` and `re_select`, which push an `AUTH` with a password and a `SELECT`
with an index only. -/
theorem client_written_whole {notify : Notification → Program κ} (hn : ∀ n, Follows Call (notify n).run)
    (s : Session) (what : String) {events : List (Event κ)}
    (h : (users Call notify).Possible
      { toSession := { s with client := { client := { what := what } } } } events) :
    let c := (users Call notify).run
      { toSession := { s with client := { client := { what := what } } } } events
    ∃ sent ∈ decodeCommands c.client.client.written, ∃ held ∈ decodeCommands c.client.buffer,
      ∀ cmd ∈ sent ++ held, ∃ request ∈ c.pushed, request.command = cmd ∧ Authentic request := by
  have hc := users_invariant hn (I := Written) (fun _ _ hstep hc => hc.step hstep)
    (fun _ _ hfailed hc => hc.failed hfailed) h (.new s what)
  dsimp only
  obtain ⟨sent, held, hwritten, hbuffer, hall⟩ := hc.whole
  rw [hwritten, hbuffer, decodeCommands_encodeCommands, decodeCommands_encodeCommands]
  refine ⟨sent, rfl, held, rfl, fun cmd hcmd => ?_⟩
  obtain ⟨request, hmem, hrequest⟩ := hall cmd hcmd
  exact ⟨request, hmem, hrequest, hc.authentic request hmem⟩

/-- A connection is lost when one command was written and another one is in the buffer. The next
one is opened, and written to. -/
def lostAndRestored : List (Event Nat) :=
  [.connect { host := ascii "localhost", port := 6379, maxReconnects := 1 } true,
    .auth (ascii "secret") none, .select 2 (some 0), .commit, .send [ascii "GET", ascii "k"] (some 1),
    .drop .idle .idle [{ accepted := true }]]

theorem client_written_whole_lostAndRestored :
    let c := (users Call fun _ => .idle).run { client := { client := { what := "" } } }
      lostAndRestored
    ∃ sent ∈ decodeCommands c.client.client.written, ∃ held ∈ decodeCommands c.client.buffer,
      ∀ cmd ∈ sent ++ held, ∃ request ∈ c.pushed, request.command = cmd ∧ Authentic request := by
  have hidle : Follows Call (Program.idle : Program Nat).run := .pure _
  exact client_written_whole (fun _ => hidle) {} "" (.intro trivial <| .intro (.auth _ _) <|
    .intro (.select _ _) <| .intro .commit <| .intro (.send _ _) <| .intro ⟨hidle, hidle⟩ trivial)

end Client

/-! ## The subscriber -/

namespace Subscriber

variable {κ : Type} {s s' : Subscriber κ}

/-- The commands of a subscriber. -/
inductive Issued : Command → Prop
  | auth (password : Bytes) : Issued [ascii "AUTH", password]
  | subscribe (channel : Bytes) : Issued [ascii "SUBSCRIBE", channel]
  | psubscribe (pattern : Bytes) : Issued [ascii "PSUBSCRIBE", pattern]
  | unsubscribe (channel : Bytes) : Issued [ascii "UNSUBSCRIBE", channel]
  | punsubscribe (pattern : Bytes) : Issued [ascii "PUNSUBSCRIBE", pattern]

/-- The bytes of the connection are those of commands of a subscriber. -/
def Written (s : Subscriber κ) : Prop :=
  s.client.Whole Issued

namespace Written

theorem sendCommand (h : Written s) {redisCmd : Command} (hcmd : Issued redisCmd) :
    Written (s.sendCommand redisCmd) :=
  RedisConnection.Whole.send h hcmd

theorem unprotectedSubscribe (h : Written s) (chan : Bytes × CallbackHolder κ) :
    Written (s.unprotectedSubscribe chan.1 chan.2) :=
  sendCommand (s := { s with subscribedChannels := s.subscribedChannels.insert chan.1 chan.2 }) h
    (.subscribe chan.1)

theorem unprotectedPsubscribe (h : Written s) (chan : Bytes × CallbackHolder κ) :
    Written (s.unprotectedPsubscribe chan.1 chan.2) :=
  sendCommand (s := { s with psubscribedChannels := s.psubscribedChannels.insert chan.1 chan.2 }) h
    (.psubscribe chan.1)

theorem foldl {α : Type} {f : Subscriber κ → α → Subscriber κ}
    (hf : ∀ s a, Written s → Written (f s a)) (as : List α) (s : Subscriber κ) (h : Written s) :
    Written (as.foldl f s) := by
  induction as generalizing s with
  | nil => exact h
  | cons a as ih => exact ih (f s a) (hf s a h)

theorem reSubscribe (h : Written s) : Written s.reSubscribe := by
  have hempty : Written { s with subscribedChannels := ∅ } := h
  unfold Subscriber.reSubscribe
  dsimp only
  have hsub := foldl (fun _ chan hs => unprotectedSubscribe hs chan) s.subscribedChannels.toList
    _ hempty
  generalize s.subscribedChannels.toList.foldl _ _ = s₁ at hsub ⊢
  have hempty' : Written { s₁ with psubscribedChannels := ∅ } := hsub
  exact foldl (fun _ chan hs => unprotectedPsubscribe hs chan) s₁.psubscribedChannels.toList
    _ hempty'

theorem commit (h : Written s) : Written (after commit s) := by
  unfold Subscriber.commit
  rw [Lens.after_zoom]
  exact RedisConnection.Whole.commit h

theorem call (h : Written s) (hcall : Call s s') : Written s' := by
  cases hcall with
  | session ht => exact ht.whole h
  | auth password callback => exact h.send (.auth password)
  | subscribe channel callback acknowledgement => exact h.send (.subscribe channel)
  | psubscribe pattern callback acknowledgement => exact h.send (.psubscribe pattern)
  | unsubscribe channel =>
    unfold Subscriber.unsubscribe
    split
    · exact h.send (.unsubscribe channel)
    · exact h
  | punsubscribe pattern =>
    unfold Subscriber.punsubscribe
    split
    · exact h.send (.punsubscribe pattern)
    · exact h
  | commit => exact h.commit
  | disconnect => exact h.emptied rfl rfl

theorem step (h : Written s) (hstep : Step Call s s') : Written s' := by
  cases hstep with
  | user hcall => exact h.call hcall
  | session ht => exact ht.whole h
  | inner ht => exact ht.whole h
  | reAuth =>
    unfold Subscriber.reAuth
    split
    · exact h
    · exact h.send (.auth s.password)
  | reSubscribe => exact h.reSubscribe
  | commit => exact h.commit
  | _ => exact h

end Written

/-- In every state of every run, what was written to the connection of a subscriber and what is
in its buffer are whole commands, each of them one of the five that it has. -/
theorem subscriber_written_whole {notify : Notification → EStateM Fault (Subscriber κ) Unit}
    (hn : ∀ n, Follows Call (notify n)) (t : Session) (what : String) {events : List (Event κ)}
    (h : (users Call notify).Possible
      { toSession := { t with client := { client := { what := what } } } } events) :
    let s := (users Call notify).run
      { toSession := { t with client := { client := { what := what } } } } events
    ∃ sent ∈ decodeCommands s.client.client.written, ∃ held ∈ decodeCommands s.client.buffer,
      ∀ cmd ∈ sent ++ held, Issued cmd := by
  have hs := users_invariant hn (I := Written) (fun _ _ hstep hs => hs.step hstep) h
    ⟨[], [], rfl, rfl, nofun⟩
  dsimp only
  obtain ⟨sent, held, hwritten, hbuffer, hall⟩ := hs
  rw [hwritten, hbuffer, decodeCommands_encodeCommands, decodeCommands_encodeCommands]
  exact ⟨sent, rfl, held, rfl, hall⟩

/-- A channel and a pattern are subscribed to again after the connection is lost. -/
def resubscribed : List (Event Nat) :=
  [.connect { host := ascii "localhost", port := 6379, maxReconnects := 1 } true,
    .user (modify (·.subscribe (ascii "news") (some 0) none)),
    .user (modify (·.psubscribe (ascii "n*") (some 1) none)), .user commit,
    .drop (pure ()) (pure ()) [{ accepted := true }]]

theorem subscriber_written_whole_resubscribed :
    let s := (users Call fun _ => pure ()).run { client := { client := { what := "" } } }
      resubscribed
    ∃ sent ∈ decodeCommands s.client.client.written, ∃ held ∈ decodeCommands s.client.buffer,
      ∀ cmd ∈ sent ++ held, Issued cmd :=
  subscriber_written_whole (fun _ => .pure _) {} "" (.intro trivial <|
    .intro (.modify fun _ => .subscribe _ _ _) <| .intro (.modify fun _ => .psubscribe _ _ _) <|
    .intro (fun _ => .single .commit) <| .intro ⟨.pure _, .pure _⟩ trivial)

end Subscriber

end CppRedis
