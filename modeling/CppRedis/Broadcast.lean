import CppRedis.Alignment
import CppRedis.Discarded
import CppRedis.Lib.Relay

/-!
# Messages

A subscriber and its server: the server carries out the commands of the connection in their
order and answers them, and writes a message for a subscription at any time. Connections are
lost and, by the subscriber or by the user, opened again.

* `Push`, `Letter`: what the server writes. `receive_letter`: what the subscriber does with it.
* `Holding`: the commands of the connection and the tables.
* `Broadcast`: the subscriber, the server, and the bytes in between.
* `messages_heard`: over all connections, the message callbacks were called for messages of the
  server, in their order and once each, and with a callback that the user gave for that key.
* `messages_complete`: on a connection no message that was read is left out, but of a channel
  or a pattern that the user has unsubscribed from.
-/

namespace CppRedis

open Text Procedure

namespace Subscriber

variable {κ : Type}

/-! ## Letters -/

/-- A message that the server writes for a subscription. -/
inductive Push
  | message (channel text : Bytes)
  | pmessage (pattern channel text : Bytes)

namespace Push

/-- The subscription that it is for. -/
def table : Push → Table
  | .message _ _ => .channels
  | .pmessage _ _ _ => .patterns

def key : Push → Bytes
  | .message channel _ => channel
  | .pmessage pattern _ _ => pattern

/-- The channel and the message. -/
def text : Push → Bytes × Bytes
  | .message channel text => (channel, text)
  | .pmessage _ channel text => (channel, text)

def value : Push → Value
  | .message channel text =>
    .array [.bulkString (ascii "message"), .bulkString channel, .bulkString text]
  | .pmessage pattern channel text =>
    .array [.bulkString (ascii "pmessage"), .bulkString pattern, .bulkString channel,
      .bulkString text]

end Push

/-- The answers to the commands of a subscriber: an acknowledgement, or no array at all. -/
def IsAnswer : Value → Prop
  | .array [_, _, .integer _] => True
  | .array _ => False
  | _ => True

/-- What the server writes. -/
inductive Letter
  | answer (value : Value) (h : IsAnswer value)
  | push (p : Push)

def Letter.value : Letter → Value
  | .answer value _ => value
  | .push p => p.value

def Letter.push? : Letter → Option Push
  | .answer _ _ => none
  | .push p => some p

/-! ## Actions -/

/-- A call that a user makes, also inside of a callback. -/
inductive Action (κ : Type)
  | op (o : Op κ)
  | auth (password : Bytes) (callback : Option κ)
  | commit

def Action.run (s : Subscriber κ) : Action κ → Subscriber κ
  | .op o => o.run s
  | .auth password callback => s.auth password callback
  | .commit => after Subscriber.commit s

def runActions (actions : List (Action κ)) (s : Subscriber κ) : Subscriber κ :=
  actions.foldl Action.run s

/-- A callback that makes some calls. -/
def doing (actions : List (Action κ)) : EStateM Fault (Subscriber κ) Unit :=
  modify (runActions actions)

/-! ## Replies -/

/-- A call of a message callback: the callback, the channel and the message. -/
def heardOf : Invocation κ → Option (κ × Bytes × Bytes)
  | .message callback channel message => some (callback, channel, message)
  | _ => none

/-- The calls of message callbacks. -/
def heard (s : Subscriber κ) : List (κ × Bytes × Bytes) :=
  s.invoked.filterMap heardOf

/-- The call that a letter leads to. -/
def hears (s : Subscriber κ) : Letter → List (κ × Bytes × Bytes)
  | .answer _ _ => []
  | .push p =>
    match ((p.table.entries s)[p.key]?).bind CallbackHolder.subscribeCallback with
    | some callback => [(callback, p.text)]
    | none => []

/-- What a reply leads to: some callbacks are called, with the calls `actions` that the user
makes in them, and the callback of an `AUTH` may be dropped. -/
def Reacts (actions : List (Action κ)) (p : EStateM Fault (Subscriber κ) Unit) (s : Subscriber κ)
    (messages : List (κ × Bytes × Bytes)) : Prop :=
  ∃ calls made auth, (made = [] ∨ made = actions) ∧ calls.filterMap heardOf = messages ∧
    p s = .ok () { runActions made (called calls s) with authReplyCallback := auth }

section Replies

variable {actions : List (Action κ)} {s : Subscriber κ}

theorem reacts_pure : Reacts actions (pure ()) s [] :=
  ⟨[], [], s.authReplyCallback, .inl rfl, rfl, by rw [called_nil]; rfl⟩

theorem reacts_invoke (invocation : Invocation κ) :
    Reacts actions (invoke invocation (doing actions)) s (heardOf invocation).toList := by
  refine ⟨[invocation], actions, _, .inr rfl, ?_, rfl⟩
  cases invocation <;> rfl

theorem callAcknowledgementCallback_reacts (channel : Bytes) (channels : Subscriptions κ)
    (nbChans : Int) :
    Reacts actions (callAcknowledgementCallback (doing actions) channel channels nbChans) s [] := by
  unfold callAcknowledgementCallback
  split
  · exact reacts_pure
  · split
    · exact reacts_invoke _
    · exact reacts_pure

theorem handleAcknowledgementReply_reacts (reply : List Reply) :
    Reacts actions (handleAcknowledgementReply (doing actions) reply) s [] := by
  unfold handleAcknowledgementReply
  split
  · split
    · unfold Reacts
      rw [get_bind]
      split
      · exact callAcknowledgementCallback_reacts _ _ _
      · split
        · exact callAcknowledgementCallback_reacts _ _ _
        · exact reacts_pure
    · exact reacts_pure
  · exact reacts_pure

theorem handleAuthReply_reacts (reply : Reply) :
    Reacts actions (handleAuthReply (doing actions) reply) s [] := by
  unfold handleAuthReply Reacts
  rw [get_bind]
  cases hauth : s.authReplyCallback with
  | none => exact reacts_pure
  | some callback =>
    cases callback with
    | user callback => exact ⟨[.auth callback reply], actions, none, .inr rfl, rfl, rfl⟩
    | reAuth => exact ⟨[], [], none, .inl rfl, rfl, by rw [called_nil]; rfl⟩

/-- A message calls the callback of its key, where there is one. -/
theorem callMessageCallback_reacts (actions : List (Action κ)) (p : Push) (hs : Callable s) :
    Reacts actions (callMessageCallback (doing actions) p.key p.text.1 p.text.2
      (p.table.entries s)) s (hears s (.push p)) := by
  unfold callMessageCallback hears
  dsimp only
  cases hentry : (p.table.entries s)[p.key]? with
  | none => exact reacts_pure
  | some holder =>
    obtain ⟨callback, hcallback⟩ := hs _ _ _ hentry
    dsimp only [Option.bind_some]
    rw [hcallback]
    exact reacts_invoke _

/-- What a subscriber does with a letter. -/
theorem receive_letter (hs : Callable s) (letter : Letter) (input : Option (List (Action κ))) :
    Reacts (input.getD []) (connectionReceiveHandler (input.map doing) letter.value.toReply) s
      (hears s letter) := by
  have huser : (input.map doing).getD (pure ()) = doing (κ := κ) (input.getD []) := by
    cases input <;> rfl
  unfold connectionReceiveHandler
  rw [huser]
  generalize input.getD [] = actions
  cases letter with
  | push p =>
    have hcall := callMessageCallback_reacts actions p hs
    cases p with
    | message channel text =>
      show Reacts actions (if ascii "message" = ascii "message" then _ else pure ()) s _
      rw [if_pos rfl]
      exact hcall
    | pmessage pattern channel text =>
      show Reacts actions (if ascii "pmessage" = ascii "pmessage" then _ else pure ()) s _
      rw [if_pos rfl]
      exact hcall
  | answer value hvalue =>
    cases value with
    | array rows =>
      match rows, hvalue with
      | [title, key, .integer n], _ =>
        show Reacts actions (if (Value.integer n).toReply.isInteger = true then _ else _) s _
        rw [if_pos (show (Value.integer n).toReply.isInteger = true from rfl)]
        exact handleAcknowledgementReply_reacts _
    | _ => exact handleAuthReply_reacts _

end Replies

/-! ## The commands and the tables -/

section Tables

variable {given : Table → Bytes → κ → Prop} {kept : Table → Bytes → Prop}
  {s s' : Subscriber κ} {sent held : List Command}

/-- It has an entry. -/
def Registered (s : Subscriber κ) (table : Table) (key : Bytes) : Prop :=
  ∃ holder, (table.entries s)[key]? = some holder

/-- The message callbacks of the tables were given for their keys. -/
def Entries (given : Table → Bytes → κ → Prop) (s : Subscriber κ) : Prop :=
  ∀ (table : Table) (key : Bytes) (holder : CallbackHolder κ), (table.entries s)[key]? = some holder →
    ∃ callback, holder.subscribeCallback = some callback ∧ given table key callback

/-- What is to be kept stays registered. -/
def KeepsKeys (kept : Table → Bytes → Prop) (s s' : Subscriber κ) : Prop :=
  ∀ table key, kept table key → s.Registered table key → s'.Registered table key

/-- The user subscribes with callbacks that are given, and does not take back what is to be kept. -/
def Action.Within (given : Table → Bytes → κ → Prop) (kept : Table → Bytes → Prop) : Action κ → Prop
  | .op (.subscribe table key callback _) => given table key callback
  | .op (.unsubscribe table key) => ¬ kept table key
  | _ => True

/-- On the connection and in the buffer are the commands `sent` and `held`. What they subscribe
to and is to be kept is registered. -/
structure Holding (given : Table → Bytes → κ → Prop) (kept : Table → Bytes → Prop)
    (s : Subscriber κ) (sent held : List Command) : Prop where
  written : s.client.client.connected = true → s.client.client.written = encodeCommands sent
  unwritten : s.client.client.connected = false → sent = []
  buffer : s.client.buffer = encodeCommands held
  entries : Entries given s
  registered : ∀ table key, kept table key → SentIn (sent ++ held) table key → s.Registered table key

/-- What nothing but a connection changes. -/
structure Linked (s s' : Subscriber κ) : Prop where
  reconnecting : s'.reconnecting = s.reconnecting
  connected : s'.client.client.connected = s.client.client.connected
  builder : s'.client.builder = s.client.builder
  replyCallback : s'.client.replyCallback = s.client.replyCallback
  disconnectionHandler : s'.client.disconnectionHandler = s.client.disconnectionHandler

theorem Linked.trans {s₁ s₂ s₃ : Subscriber κ} (h : Linked s₁ s₂) (h' : Linked s₂ s₃) : Linked s₁ s₃ :=
  ⟨h'.reconnecting.trans h.reconnecting, h'.connected.trans h.connected, h'.builder.trans h.builder,
    h'.replyCallback.trans h.replyCallback, h'.disconnectionHandler.trans h.disconnectionHandler⟩

/-- What an action leaves alone. -/
structure Calm (s s' : Subscriber κ) : Prop extends Linked s s' where
  invoked : s'.invoked = s.invoked

theorem Calm.refl (s : Subscriber κ) : Calm s s :=
  ⟨⟨rfl, rfl, rfl, rfl, rfl⟩, rfl⟩

theorem Calm.trans {s₁ s₂ s₃ : Subscriber κ} (h : Calm s₁ s₂) (h' : Calm s₂ s₃) : Calm s₁ s₃ :=
  ⟨h.toLinked.trans h'.toLinked, h'.invoked.trans h.invoked⟩

/-! ### Calls of the tables -/

/-- The command that takes a key back. -/
def Table.unverb : Table → Bytes
  | .channels => ascii "UNSUBSCRIBE"
  | .patterns => ascii "PUNSUBSCRIBE"

theorem Table.verb_injective {table table' : Table} (h : table.verb = table'.verb) :
    table = table' := by
  cases table <;> cases table' <;> first | rfl | exact absurd h (by decide)

theorem Table.unverb_ne_verb (table table' : Table) : table.unverb ≠ table'.verb := by
  cases table <;> cases table' <;> decide

/-- What a single command subscribes to. -/
theorem sentIn_pair {verb arg key : Bytes} {table : Table} (h : SentIn [[verb, arg]] table key) :
    verb = table.verb ∧ arg = key := by
  obtain ⟨keys, hmem, hkey⟩ := h
  obtain ⟨hverb, hkeys⟩ := List.cons.inj (List.mem_singleton.mp hmem)
  rw [hkeys] at hkey
  exact ⟨hverb.symm, (List.mem_singleton.mp hkey).symm⟩

theorem subscribe_client (table : Table) (key : Bytes) (callback : κ) (acknowledgement : Option κ)
    (s : Subscriber κ) :
    Calm s (Op.run s (.subscribe table key callback acknowledgement)) ∧
      (Op.run s (.subscribe table key callback acknowledgement)).client =
        s.client.send [table.verb, key] := by
  cases table <;> exact ⟨⟨⟨rfl, rfl, rfl, rfl, rfl⟩, rfl⟩, rfl⟩

theorem unsubscribe_client (table : Table) (key : Bytes) (s : Subscriber κ) :
    Calm s (Op.run s (.unsubscribe table key)) ∧
      (Op.run s (.unsubscribe table key) = s ∨
        (Op.run s (.unsubscribe table key)).client = s.client.send [table.unverb, key]) := by
  cases table with
  | channels =>
    show Calm s (s.unsubscribe key) ∧ (s.unsubscribe key = s ∨ (s.unsubscribe key).client = _)
    unfold unsubscribe
    split
    · exact ⟨⟨⟨rfl, rfl, rfl, rfl, rfl⟩, rfl⟩, .inr rfl⟩
    · exact ⟨.refl s, .inl rfl⟩
  | patterns =>
    show Calm s (s.punsubscribe key) ∧ (s.punsubscribe key = s ∨ (s.punsubscribe key).client = _)
    unfold punsubscribe
    split
    · exact ⟨⟨⟨rfl, rfl, rfl, rfl, rfl⟩, rfl⟩, .inr rfl⟩
    · exact ⟨.refl s, .inl rfl⟩

theorem after_commit (s : Subscriber κ) :
    after Subscriber.commit s = connection.set (after RedisConnection.commit s.client) s :=
  connection.after_zoom _ s

theorem Action.calm (a : Action κ) (s : Subscriber κ) : Calm s (a.run s) := by
  cases a with
  | op o =>
    cases o with
    | subscribe table key callback acknowledgement =>
      exact (subscribe_client table key callback acknowledgement s).1
    | unsubscribe table key => exact (unsubscribe_client table key s).1
  | auth password callback => exact ⟨⟨rfl, rfl, rfl, rfl, rfl⟩, rfl⟩
  | commit =>
    show Calm s (after Subscriber.commit s)
    rw [after_commit]
    cases hc : s.client.client.connected with
    | true =>
      rw [after_ok (RedisConnection.commit_connected hc)]
      exact ⟨⟨rfl, rfl, rfl, rfl, rfl⟩, rfl⟩
    | false =>
      rw [after_error (RedisConnection.commit_disconnected hc)]
      exact ⟨⟨rfl, rfl, rfl, rfl, rfl⟩, rfl⟩

/-! ### What they keep -/

namespace Holding

theorem callable (h : Holding given kept s sent held) : Callable s := by
  intro table key holder hentry
  obtain ⟨callback, hcallback, -⟩ := h.entries table key holder hentry
  exact ⟨callback, hcallback⟩

/-- What is not about the connection and the tables does not matter. -/
theorem congr (h : Holding given kept s sent held)
    (hconnected : s'.client.client.connected = s.client.client.connected)
    (hwritten : s'.client.client.written = s.client.client.written)
    (hbuffer : s'.client.buffer = s.client.buffer)
    (hentries : ∀ (table : Table) (key : Bytes), (table.entries s')[key]? = (table.entries s)[key]?) :
    Holding given kept s' sent held := by
  refine ⟨fun hc => ?_, fun hc => ?_, hbuffer.trans h.buffer, fun table key holder hentry => ?_,
    fun table key hk hsent => ?_⟩
  · exact hwritten.trans (h.written (hconnected.symm.trans hc))
  · exact h.unwritten (hconnected.symm.trans hc)
  · exact h.entries table key holder ((hentries table key).symm.trans hentry)
  · obtain ⟨holder, hholder⟩ := h.registered table key hk hsent
    exact ⟨holder, (hentries table key).trans hholder⟩

/-- A command is sent, and the tables change: the keys that it subscribes to are registered. -/
theorem send (h : Holding given kept s sent held) {redisCmd : Command}
    (hclient : s'.client = s.client.send redisCmd) (hentries : Entries given s')
    (hkeys : KeepsKeys kept s s')
    (hsent : ∀ table key, SentIn [redisCmd] table key → s'.Registered table key) :
    Holding given kept s' sent (held ++ [redisCmd]) where
  written := by
    rw [hclient]
    exact h.written
  unwritten := by
    rw [hclient]
    exact h.unwritten
  buffer := by
    rw [hclient, encodeCommands_append, encodeCommands_singleton, ← h.buffer]
    rfl
  entries := hentries
  registered table key hk hsentIn := by
    obtain ⟨keys, hmem, hkey⟩ := hsentIn
    rw [← List.append_assoc] at hmem
    rcases List.mem_append.mp hmem with hold | hnew
    · exact hkeys table key hk (h.registered table key hk ⟨keys, hold, hkey⟩)
    · exact hsent table key ⟨keys, hnew, hkey⟩

theorem subscribe (h : Holding given kept s sent held) {table : Table} {key : Bytes} {callback : κ}
    (hgiven : given table key callback) (acknowledgement : Option κ) :
    Holding given kept (Op.run s (.subscribe table key callback acknowledgement)) sent
        (held ++ [[table.verb, key]]) ∧
      KeepsKeys kept s (Op.run s (.subscribe table key callback acknowledgement)) := by
  have hentry := table_op (.subscribe table key callback acknowledgement) s
  have hkeys : KeepsKeys kept s (Op.run s (.subscribe table key callback acknowledgement)) := by
    intro table' key' _ hregistered
    obtain ⟨holder, hholder⟩ := hregistered
    unfold Registered
    rw [hentry]
    dsimp only
    split
    · exact ⟨_, rfl⟩
    · exact ⟨holder, hholder⟩
  refine ⟨h.send (subscribe_client table key callback acknowledgement s).2 ?_ hkeys ?_, hkeys⟩
  · intro table' key' holder hholder
    rw [hentry] at hholder
    dsimp only at hholder
    split at hholder
    · next hsame =>
      obtain ⟨rfl, rfl⟩ := hsame
      obtain rfl := Option.some.inj hholder
      exact ⟨callback, rfl, hgiven⟩
    · exact h.entries table' key' holder hholder
  · intro table' key' hsentIn
    obtain ⟨hverb, rfl⟩ := sentIn_pair hsentIn
    obtain rfl := Table.verb_injective hverb
    unfold Registered
    rw [hentry]
    dsimp only
    rw [if_pos ⟨rfl, rfl⟩]
    exact ⟨_, rfl⟩

theorem unsubscribe (h : Holding given kept s sent held) {table : Table} {key : Bytes}
    (hkept : ¬ kept table key) :
    (∃ held', Holding given kept (Op.run s (.unsubscribe table key)) sent held') ∧
      KeepsKeys kept s (Op.run s (.unsubscribe table key)) := by
  have hentry := table_op (.unsubscribe table key) s
  have hkeys : KeepsKeys kept s (Op.run s (.unsubscribe table key)) := by
    intro table' key' hk hregistered
    obtain ⟨holder, hholder⟩ := hregistered
    unfold Registered
    rw [hentry]
    dsimp only
    rw [if_neg fun hsame => hkept (by rw [hsame.1, hsame.2]; exact hk)]
    exact ⟨holder, hholder⟩
  refine ⟨?_, hkeys⟩
  rcases (unsubscribe_client table key s).2 with hsame | hclient
  · rw [hsame]
    exact ⟨held, h⟩
  · refine ⟨_, h.send hclient (fun table' key' holder hholder => ?_) hkeys fun table' key' hsentIn => ?_⟩
    · rw [hentry] at hholder
      dsimp only at hholder
      split at hholder
      · cases hholder
      · exact h.entries table' key' holder hholder
    · exact absurd (sentIn_pair hsentIn).1 (table.unverb_ne_verb table')

theorem commit (h : Holding given kept s sent held) :
    ∃ sent' held', Holding given kept (after Subscriber.commit s) sent' held' := by
  rw [after_commit]
  cases hc : s.client.client.connected with
  | true =>
    rw [after_ok (RedisConnection.commit_connected hc)]
    refine ⟨sent ++ held, [], fun _ => ?_, fun hclosed => ?_, rfl, h.entries, ?_⟩
    · show s.client.client.written ++ s.client.buffer = _
      rw [h.written hc, h.buffer, encodeCommands_append]
    · exact absurd (hc.symm.trans hclosed) Bool.noConfusion
    · rw [List.append_nil]
      exact h.registered
  | false =>
    rw [after_error (RedisConnection.commit_disconnected hc)]
    obtain rfl := h.unwritten hc
    refine ⟨[], [], fun hopen => ?_, fun _ => rfl, rfl, h.entries, ?_⟩
    · exact absurd (hopen.symm.trans hc) Bool.noConfusion
    · rintro table key - ⟨keys, hmem, -⟩
      exact absurd hmem List.not_mem_nil

/-- An action. -/
theorem action (h : Holding given kept s sent held) {a : Action κ} (ha : a.Within given kept) :
    (∃ sent' held', Holding given kept (a.run s) sent' held') ∧ KeepsKeys kept s (a.run s) := by
  cases a with
  | op o =>
    cases o with
    | subscribe table key callback acknowledgement =>
      obtain ⟨hholding, hkeys⟩ := h.subscribe ha acknowledgement
      exact ⟨⟨sent, _, hholding⟩, hkeys⟩
    | unsubscribe table key =>
      obtain ⟨⟨held', hholding⟩, hkeys⟩ := h.unsubscribe ha
      exact ⟨⟨sent, held', hholding⟩, hkeys⟩
  | auth password callback =>
    refine ⟨⟨sent, _, h.send rfl h.entries ?_ ?_⟩, ?_⟩
    · exact fun _ _ _ hregistered => hregistered
    · intro table key hsentIn
      exact absurd (sentIn_pair hsentIn).1 (by cases table <;> decide)
    · exact fun _ _ _ hregistered => hregistered
  | commit =>
    refine ⟨h.commit, fun table key _ hregistered => ?_⟩
    show (after Subscriber.commit s).Registered table key
    rw [after_commit]
    exact hregistered

/-- Some actions, one after the other. -/
theorem actions (h : Holding given kept s sent held) {as : List (Action κ)}
    (has : ∀ a ∈ as, a.Within given kept) :
    Calm s (runActions as s) ∧ (∃ sent' held', Holding given kept (runActions as s) sent' held') ∧
      KeepsKeys kept s (runActions as s) := by
  induction as generalizing s sent held with
  | nil => exact ⟨.refl s, ⟨sent, held, h⟩, fun _ _ _ hregistered => hregistered⟩
  | cons a as ih =>
    obtain ⟨ha, has⟩ := List.forall_mem_cons.mp has
    obtain ⟨⟨sent', held', hholding⟩, hkeys⟩ := h.action ha
    obtain ⟨hcalm, hholding', hkeys'⟩ := ih hholding has
    exact ⟨(a.calm s).trans hcalm, hholding', fun table key hk hregistered =>
      hkeys' table key hk (hkeys table key hk hregistered)⟩

end Holding

/-! ## Chunks -/

/-- The call is that of a message, with a callback that was given for its key. -/
def Tells (given : Table → Bytes → κ → Prop) (p : Push) (call : κ × Bytes × Bytes) : Prop :=
  call.2 = p.text ∧ given p.table p.key call.1

/-- What was heard of some messages: none is left out whose key is to be kept. -/
def Relayed (given : Table → Bytes → κ → Prop) (kept : Table → Bytes → Prop) (pushes : List Push)
    (calls : List (κ × Bytes × Bytes)) : Prop :=
  Relays (Tells given) (fun p => kept p.table p.key) pushes calls

/-- One letter. -/
theorem hears_relayed (h : Entries given s) {letter : Letter}
    (hregistered : ∀ p, letter = .push p → kept p.table p.key → s.Registered p.table p.key) :
    Relayed given kept letter.push?.toList (hears s letter) := by
  cases letter with
  | answer value hvalue => exact .nil
  | push p =>
    unfold hears
    dsimp only
    cases hentry : (p.table.entries s)[p.key]? with
    | none =>
      refine .lose (fun hkept => ?_) .nil
      obtain ⟨holder, hholder⟩ := hregistered p rfl hkept
      exact Option.some_ne_none holder (hholder.symm.trans hentry)
    | some holder =>
      obtain ⟨callback, hcallback, hgiven⟩ := h p.table p.key holder hentry
      dsimp only [Option.bind_some]
      rw [hcallback]
      exact .pass ⟨rfl, hgiven⟩ .nil

/-- A letter is received: what is heard of it is relayed, and the calls that the user makes in
the callback keep the commands and the tables in order. -/
theorem receive_relayed (h : Holding given kept s sent held) {letter : Letter}
    (hregistered : ∀ p, letter = .push p → kept p.table p.key → s.Registered p.table p.key)
    {input : Option (List (Action κ))} (hinput : ∀ a ∈ input.getD [], a.Within given kept) :
    ∃ s' calls, connectionReceiveHandler (input.map doing) letter.value.toReply s = .ok () s' ∧
      s'.heard = s.heard ++ calls ∧ Relayed given kept letter.push?.toList calls ∧ Linked s s' ∧
      (∃ sent' held', Holding given kept s' sent' held') ∧ KeepsKeys kept s s' := by
  obtain ⟨invocations, made, auth, hmade, hmessages, hreceive⟩ :=
    receive_letter h.callable letter input
  have hwithin : ∀ a ∈ made, a.Within given kept := by
    rcases hmade with rfl | rfl
    · exact fun a ha => absurd ha List.not_mem_nil
    · exact hinput
  have hcalled : Holding given kept (called invocations s) sent held :=
    h.congr rfl rfl rfl fun table _ => by cases table <;> rfl
  obtain ⟨hcalm, ⟨sent', held', hacted⟩, hkeys⟩ := hcalled.actions hwithin
  have hheard : (runActions made (called invocations s)).heard = s.heard ++ hears s letter := by
    rw [← hmessages]
    exact (congrArg (List.filterMap heardOf) hcalm.invoked).trans List.filterMap_append
  generalize runActions made (called invocations s) = s₁ at hreceive hcalm hacted hkeys hheard
  refine ⟨_, _, hreceive, hheard, hears_relayed h.entries hregistered, ?_, ⟨sent', held', ?_⟩, ?_⟩
  · exact ⟨hcalm.reconnecting, hcalm.connected, hcalm.builder, hcalm.replyCallback,
      hcalm.disconnectionHandler⟩
  · exact hacted.congr rfl rfl rfl fun table _ => by cases table <;> rfl
  · intro table key hk hregistered
    have hregistered' := hkeys table key hk (by cases table <;> exact hregistered)
    cases table <;> exact hregistered'

/-- The keys of the messages among some letters are registered, as far as they are to be kept. -/
def Known (kept : Table → Bytes → Prop) (s : Subscriber κ) (letters : List Letter) : Prop :=
  ∀ p, .push p ∈ letters → kept p.table p.key → s.Registered p.table p.key

/-- While the replies to some letters are handed to `s`: the replies `rest` are left, and what
was heard of the others was relayed. -/
structure Delivering (given : Table → Bytes → κ → Prop) (kept : Table → Bytes → Prop)
    (s : Subscriber κ) (b : ReplyBuilder) (letters : List Letter) (rest : List Reply)
    (s' : Subscriber κ) : Prop where
  linked : Linked (connection.set { s.client with builder := b.prepend rest } s) s'
  handed : ∃ done todo calls, done ++ todo = letters ∧ todo.map (fun l => l.value.toReply) = rest ∧
    s'.heard = s.heard ++ calls ∧ Relayed given kept (done.filterMap Letter.push?) calls
  holding : ∃ sent held, Holding given kept s' sent held
  keys : KeepsKeys kept s s'

/-- One more reply. -/
theorem Delivering.turn {b : ReplyBuilder} {letters : List Letter} {reply : Reply}
    {rest : List Reply} (hknown : Known kept s letters) (hnone : b.availableReplies = [])
    (h : Delivering given kept s b letters (reply :: rest) s') (input : Option (List (Action κ)))
    (hinput : ∀ a ∈ input.getD [], a.Within given kept) :
    ∃ s'', connectionReceiveHandler (input.map doing) reply
        (connection.update (RedisConnection.popReply rest) s') = .ok () s'' ∧
      Delivering given kept s b letters rest s'' := by
  obtain ⟨done, todo, calls, hletters, htodo, hheard, hrelayed⟩ := h.handed
  obtain ⟨letter, todo, rfl, rfl, hrest⟩ := List.map_eq_cons_iff.mp htodo
  obtain ⟨sent, held, hholding⟩ := h.holding
  have hlinked : Linked (connection.set { s.client with builder := b.prepend rest } s)
      (connection.update (RedisConnection.popReply rest) s') :=
    ⟨h.linked.reconnecting, h.linked.connected,
      RedisConnection.popReply_builder hnone h.linked.builder,
      h.linked.replyCallback, h.linked.disconnectionHandler⟩
  have hpopped : Holding given kept (connection.update (RedisConnection.popReply rest) s') sent held :=
    hholding.congr rfl rfl rfl fun table _ => by cases table <;> rfl
  have hkeys : KeepsKeys kept s (connection.update (RedisConnection.popReply rest) s') := by
    intro table key hk hregistered
    have hregistered' := h.keys table key hk hregistered
    cases table <;> exact hregistered'
  have hpoppedHeard : (connection.update (RedisConnection.popReply rest) s').heard =
      s.heard ++ calls := hheard
  generalize connection.update (RedisConnection.popReply rest) s' = t
    at hlinked hpopped hkeys hpoppedHeard
  have hregistered (p : Push) (hp : letter = .push p) (hk : kept p.table p.key) :
      t.Registered p.table p.key :=
    hkeys _ _ hk (hknown p (hletters ▸ List.mem_append_right _ (hp ▸ List.mem_cons_self)) hk)
  obtain ⟨s'', calls', hreceive, hheard', hrelayed', hlinked', hholding', hkeys'⟩ :=
    receive_relayed hpopped hregistered hinput
  refine ⟨s'', hreceive, hlinked.trans hlinked', ⟨done ++ [letter], todo, calls ++ calls', ?_, hrest,
    ?_, ?_⟩, hholding', fun table key hk hreg => hkeys' table key hk (hkeys table key hk hreg)⟩
  · rw [List.append_assoc]
    exact hletters
  · rw [hheard', hpoppedHeard, List.append_assoc]
  · rw [List.filterMap_append]
    refine hrelayed.append ?_
    cases letter <;> exact hrelayed'

/-- A chunk that arrives in whole: the letters that it completes are handed to the subscriber, and
the connection is read again. -/
theorem receive_letters (notify : Notification → EStateM Fault (Subscriber κ) Unit) {data : Bytes}
    {b : ReplyBuilder} {letters : List Letter} {callbacks : List (List (Action κ))}
    (h : Holding given kept s sent held) (hknown : Known kept s letters)
    (hcallbacks : ∀ as ∈ callbacks, ∀ a ∈ as, a.Within given kept)
    (hopen : s.client.client.connected = true) (hset : s.client.replyCallback = true)
    (hnone : b.availableReplies = [])
    (hfeed : s.client.builder.feed data =
      (b.prepend (letters.map fun l => l.value.toReply), .ok ())) :
    let s' := after (receive notify (some data) (callbacks.map doing) id []) s
    ∃ calls, s'.heard = s.heard ++ calls ∧
      Relayed given kept (letters.filterMap Letter.push?) calls ∧
      Linked (connection.set { s.client with builder := b } s) s' ∧
      (∃ sent' held', Holding given kept s' sent' held') ∧ KeepsKeys kept s s' := by
  have havailable := b.availableReplies_prepend hnone
  have hkeep (t : Subscriber κ) (r : RedisConnection) : KeepsKeys kept t (connection.set r t) :=
    fun table _ _ hregistered => by cases table <;> exact hregistered
  have hstart : Delivering given kept s b letters
      (b.prepend (letters.map fun l => l.value.toReply)).availableReplies
      (connection.set { s.client with builder := b.prepend (letters.map fun l => l.value.toReply) }
        s) := by
    refine ⟨⟨rfl, rfl, congrArg b.prepend (havailable _).symm, rfl, rfl⟩,
      ⟨[], letters, [], rfl, (havailable _).symm, (List.append_nil _).symm, .nil⟩, ⟨sent, held, ?_⟩,
      hkeep s _⟩
    exact h.congr rfl rfl rfl fun table _ => by cases table <;> rfl
  have hbuilder {rest : List Reply} {s' : Subscriber κ}
      (hs' : Delivering given kept s b letters rest s') :
      s'.client.builder.availableReplies = rest ∧ s'.client.replyCallback = true := by
    rw [hs'.linked.builder]
    exact ⟨havailable rest, hs'.linked.replyCallback.trans hset⟩
  have hend {s' : Subscriber κ} (hs' : Delivering given kept s b letters [] s') :
      s'.client.client.connected = true :=
    hs'.linked.connected.trans hopen
  -- the callbacks with what is known of their calls
  let f (as : { as : List (Action κ) // ∀ a ∈ as, a.Within given kept }) :
    EStateM Fault (Subscriber κ) Unit := doing as.1
  have hmap : callbacks.map doing = (callbacks.attachWith _ hcallbacks).map f := by
    refine Eq.trans ?_ (List.map_map (f := Subtype.val) (g := doing))
    rw [List.attachWith_map_subtype_val]
  have hturn {reply : Reply} {rest : List Reply} {s' : Subscriber κ}
      (x : Option { as : List (Action κ) // ∀ a ∈ as, a.Within given kept })
      (hs' : Delivering given kept s b letters (reply :: rest) s') :
      ∃ s'', connectionReceiveHandler (x.map f) reply
          (connection.update (RedisConnection.popReply rest) s') = .ok () s'' ∧
        Delivering given kept s b letters rest s'' := by
    cases x with
    | none => exact hs'.turn hknown hnone none fun a ha => absurd ha List.not_mem_nil
    | some as => exact hs'.turn hknown hnone (some as.1) as.2
  obtain ⟨t, hdelivered, hreceive⟩ := RedisConnection.receive_ok hbuilder hturn hend
    (connectionDisconnectionHandler notify id []) (callbacks.attachWith _ hcallbacks) hfeed hstart
  obtain ⟨done, todo, calls, hletters, htodo, hheard, hrelayed⟩ := hdelivered.handed
  obtain ⟨sent', held', hholding⟩ := hdelivered.holding
  obtain rfl := List.map_eq_nil_iff.mp htodo
  rw [List.append_nil] at hletters
  unfold receive
  dsimp only
  rw [hmap, hreceive]
  refine ⟨calls, hheard, hletters ▸ hrelayed, ?_, ⟨sent', held', ?_⟩, fun table key hk hregistered => ?_⟩
  · exact ⟨hdelivered.linked.reconnecting, hdelivered.linked.connected, hdelivered.linked.builder,
      hdelivered.linked.replyCallback, hdelivered.linked.disconnectionHandler⟩
  · exact hholding.congr rfl rfl rfl fun table _ => by cases table <;> rfl
  · have hregistered' := hdelivered.keys table key hk hregistered
    cases table <;> exact hregistered'

end Tables

/-! ## Connecting -/

section Connecting

variable {notify : Notification → EStateM Fault (Subscriber κ) Unit} {s s' : Subscriber κ}

/-- The two states differ in the parameters and in what is only recorded of the connection. -/
structure Unmoved (s s' : Subscriber κ) : Prop extends Same s s' where
  builder : s'.client.builder = s.client.builder
  replyCallback : s'.client.replyCallback = s.client.replyCallback
  invoked : s'.invoked = s.invoked

theorem Unmoved.linked (h : Unmoved s s') : Linked s s' :=
  ⟨h.reconnecting, h.connected, h.builder, h.replyCallback, h.handled⟩

theorem Unmoved.entries (h : Unmoved s s') (table : Table) (key : Bytes) :
    (table.entries s')[key]? = (table.entries s)[key]? := by
  cases table with
  | channels => exact congrArg (·[key]?) h.channels
  | patterns => exact congrArg (·[key]?) h.patterns

theorem idle_unmoved (hn : Silent notify) : (owner notify).Idle Unmoved where
  refl s := ⟨.refl s, rfl, rfl, rfl⟩
  trans h h' := ⟨h.toSame.trans h'.toSame, h'.builder.trans h.builder,
    h'.replyCallback.trans h.replyCallback, h'.invoked.trans h.invoked⟩
  connected h := h.connected
  told s n hstate := by
    have hsame := (idle_same hn).told s n hstate
    have hnotify : (owner notify).notify n = notify n := rfl
    rw [hnotify, hn] at hsame ⊢
    exact ⟨hsame, rfl, rfl, rfl⟩
  count s := ⟨(idle_same hn).count s, rfl, rfl, rfl⟩
  lookup s lookup := by
    obtain ⟨host, port, hafter⟩ := Session.after_getMasterAddrByName lookup s.toSession
    have hsame := (idle_same hn).lookup s lookup
    have hget : (owner notify).session.get s = s.toSession := rfl
    rw [hget, hafter] at hsame ⊢
    exact ⟨hsame, rfl, rfl, rfl⟩
  refuse s endpoint := ⟨(idle_same hn).refuse s endpoint, rfl, rfl, rfl⟩

/-- A new connection was opened. -/
structure Reopened (s s' : Subscriber κ) : Prop extends Opened s s' where
  builder : s'.client.builder = s.client.builder
  replyCallback : s'.client.replyCallback = true
  invoked : s'.invoked = s.invoked

theorem Reopened.of_opens (h : (owner notify).Opens Unmoved s s') : Reopened s s' := by
  obtain ⟨endpoint, s₀, hbefore, hafter⟩ := h
  exact ⟨.of_opens ⟨endpoint, s₀, hbefore.toSame, hafter.toSame⟩, hafter.builder.trans hbefore.builder,
    hafter.replyCallback, hafter.invoked.trans hbefore.invoked⟩

/-- Connecting, successful or not. -/
theorem connect_opens (hn : Silent notify) (p : Session.ConnectParams) (accepted : Bool)
    (s : Subscriber κ) :
    Unmoved s (after (Subscriber.connect notify p accepted) s) ∨
      s.client.client.connected = false ∧
        (owner notify).Opens Unmoved s (after (Subscriber.connect notify p accepted) s) := by
  have hsave : Unmoved s ((owner notify).session.update (·.saveConnect p) s) :=
    ⟨⟨rfl, rfl, rfl, rfl, rfl, rfl, rfl⟩, rfl, rfl, rfl⟩
  rcases (idle_unmoved hn).connect_saved p accepted rfl with hsame | ⟨hclosed, hopens⟩
  · exact .inl ((idle_unmoved hn).trans hsave hsame)
  · exact .inr ⟨hclosed, (idle_unmoved hn).opens_of hsave hopens⟩

theorem connectByName_opens (hn : Silent notify) (name : Bytes) (p : Session.ConnectParams)
    (lookup : Lookup) (accepted : Bool) (s : Subscriber κ) :
    Unmoved s (after (Subscriber.connectByName notify name p lookup accepted) s) ∨
      s.client.client.connected = false ∧
        (owner notify).Opens Unmoved s
          (after (Subscriber.connectByName notify name p lookup accepted) s) := by
  have hidle := idle_unmoved hn
  unfold Subscriber.connectByName Owner.connectByName
  rw [after_modify_bind]
  have hname : Unmoved s ((owner notify).session.update (fun t => { t with masterName := name }) s) :=
    ⟨⟨rfl, rfl, rfl, rfl, rfl, rfl, rfl⟩, rfl, rfl, rfl⟩
  have hlookup := hidle.lookup
    ((owner notify).session.update (fun t => { t with masterName := name }) s) lookup
  rw [← Lens.after_zoom] at hlookup
  have hfound := hidle.trans hname hlookup
  cases hzoom : (owner notify).session.zoom (Session.getMasterAddrByName lookup)
      ((owner notify).session.update (fun t => { t with masterName := name }) s) with
  | error e s₁ =>
    rw [after_error hzoom] at hfound
    rw [after_bind_error hzoom]
    exact .inl hfound
  | ok found s₁ =>
    rw [after_ok hzoom] at hfound
    rw [after_bind_ok hzoom]
    cases found with
    | false => exact .inl hfound
    | true =>
      rcases connect_opens hn { p with host := s₁.redisServer, port := s₁.redisPort } accepted s₁ with
        hsame | ⟨hclosed, hopens⟩
      · exact .inl (hidle.trans hfound hsame)
      · exact .inr ⟨hfound.connected.symm.trans hclosed, hidle.opens_of hfound hopens⟩

theorem reSubscribe_invoked (s : Subscriber κ) : s.reSubscribe.invoked = s.invoked := by
  have hfoldl {f : Subscriber κ → Bytes × CallbackHolder κ → Subscriber κ}
      (hf : ∀ s a, (f s a).invoked = s.invoked) (as : List (Bytes × CallbackHolder κ))
      (s : Subscriber κ) : (as.foldl f s).invoked = s.invoked := by
    induction as generalizing s with
    | nil => rfl
    | cons a as ih => exact (ih (f s a)).trans (hf s a)
  unfold reSubscribe
  dsimp only
  refine (hfoldl ?_ _ _).trans (hfoldl ?_ _ _) <;> exact fun _ _ => rfl

theorem resume_invoked {s s' : Subscriber κ} (h : resume s = .ok () s') : s'.invoked = s.invoked := by
  have hauth : s.reAuth.invoked = s.invoked := by
    unfold reAuth
    split <;> rfl
  have hcommit : commit s.reAuth.reSubscribe = .ok () s' := h
  rw [← after_ok hcommit, after_commit]
  exact (reSubscribe_invoked s.reAuth).trans hauth

/-- A reconnection subscribes to what is registered only. -/
theorem registered_of_resubscription {table : Table} {key : Bytes}
    (h : SentIn s.resubscription table key) : s.Registered table key := by
  obtain ⟨keys, hmem, hkey⟩ := h
  have hentry {m : Subscriptions κ} (hm : key ∈ m.keys) : ∃ holder, m[key]? = some holder :=
    Option.isSome_iff_exists.mp
      (Std.TreeMap.isSome_getElem?_iff_mem.mpr (Std.TreeMap.mem_keys.mp hm))
  have hpair {verb key' : Bytes} (hcmd : [verb, key'] = table.verb :: keys) :
      verb = table.verb ∧ key' = key := by
    obtain ⟨hverb, hkeys⟩ := List.cons.inj hcmd
    rw [← hkeys] at hkey
    exact ⟨hverb, (List.mem_singleton.mp hkey).symm⟩
  unfold resubscription at hmem
  rcases List.mem_append.mp hmem with hauth | hmem
  · split at hauth
    · exact absurd hauth List.not_mem_nil
    · have hverb := (hpair (List.mem_singleton.mp hauth).symm).1
      exact absurd hverb (by cases table <;> decide)
  · rcases List.mem_append.mp hmem with hchannel | hpattern
    · obtain ⟨key', hkey', hcmd⟩ := List.mem_map.mp hchannel
      obtain ⟨hverb, rfl⟩ := hpair hcmd
      obtain rfl := Table.verb_injective (show Table.verb .channels = table.verb from hverb)
      exact hentry hkey'
    · obtain ⟨key', hkey', hcmd⟩ := List.mem_map.mp hpattern
      obtain ⟨hverb, rfl⟩ := hpair hcmd
      obtain rfl := Table.verb_injective (show Table.verb .patterns = table.verb from hverb)
      exact hentry hkey'

variable (notify) in
/-- The handler of a lost connection has begun. -/
def begun (s : Subscriber κ) : Subscriber κ :=
  (owner notify).session.update Session.beginReconnection s.lost

/-- How a handler that was left has ended: it has given up, or it has opened a connection and
subscribed again to all that is registered. -/
structure Ended (s s' : Subscriber κ) : Prop where
  reconnecting : s'.reconnecting = false
  invoked : s'.invoked = s.invoked
  builder : s'.client.builder = s.client.builder.reset
  buffer : s'.client.buffer = []
  outcome : s'.client.client.connected = false ∧ s'.subscribedChannels = ∅ ∧
      s'.psubscribedChannels = ∅ ∨
    s'.client.client.connected = true ∧ s'.client.replyCallback = true ∧
      s'.client.disconnectionHandler = true ∧
      (∀ (table : Table) (key : Bytes), (table.entries s')[key]? = (table.entries s)[key]?) ∧
      ∃ cmds, s'.client.client.written = encodeCommands cmds ∧
        ∀ table key, SentIn cmds table key → s'.Registered table key

/-- A handler that has given up. -/
theorem Ended.gaveUp {s₀ s₁ s₂ s₃ : Subscriber κ} (h₀ : Unmoved (s.begun notify) s₀)
    (hclosed : s₀.client.client.connected = false) (h₁ : Unmoved s₀ s₁)
    (hgiveUp : (owner notify).giveUp s₁ = .ok () s₂) (h₃ : Unmoved s₂ s₃) :
    Ended s ((owner notify).session.update Session.endReconnection s₃) := by
  cases hgiveUp
  have hbuilder : s₃.client.builder = s.client.builder.reset :=
    h₃.builder.trans (h₁.builder.trans h₀.builder)
  refine ⟨rfl, h₃.invoked.trans (h₁.invoked.trans h₀.invoked), hbuilder,
    h₃.buffer.trans (h₁.buffer.trans h₀.buffer), .inl ⟨?_, h₃.channels, h₃.patterns⟩⟩
  exact h₃.connected.trans (h₁.connected.trans hclosed)

/-- A handler that has opened a connection. -/
theorem Ended.resumed {s₀ s₁ s₂ : Subscriber κ} (h₀ : Unmoved (s.begun notify) s₀)
    (hopens : (owner notify).Opens Unmoved s₀ s₁) (hresumed : (owner notify).resume s₁ = .ok () s₂) :
    Ended s ((owner notify).session.update Session.endReconnection s₂) := by
  have hopened := Reopened.of_opens hopens
  obtain ⟨-, hclient, hentries⟩ := resume_ok hresumed
  have hkept (table : Table) (key : Bytes) : (table.entries s₂)[key]? = (table.entries s)[key]? := by
    rw [hentries]
    have hfirst := h₀.entries table key
    cases table with
    | channels => exact (congrArg (·[key]?) hopened.channels).trans hfirst
    | patterns => exact (congrArg (·[key]?) hopened.patterns).trans hfirst
  have hinvoked : s₂.invoked = s.invoked :=
    (resume_invoked hresumed).trans (hopened.invoked.trans h₀.invoked)
  have hbuffer : s₁.client.buffer = [] := hopened.buffer.trans h₀.buffer
  refine ⟨rfl, hinvoked, ?_, ?_, .inr ⟨?_, ?_, ?_, ?_, s₁.resubscription, ?_, ?_⟩⟩
  · show s₂.client.builder = _
    rw [hclient]
    exact hopened.builder.trans h₀.builder
  · show s₂.client.buffer = []
    rw [hclient]
    rfl
  · show s₂.client.client.connected = true
    rw [hclient]
    exact hopened.connected
  · show s₂.client.replyCallback = true
    rw [hclient]
    exact hopened.replyCallback
  · show s₂.client.disconnectionHandler = true
    rw [hclient]
    exact hopened.handled
  · intro table key
    rw [← hkept table key]
    cases table <;> rfl
  · show s₂.client.client.written = _
    rw [hclient]
    show s₁.client.client.written ++ (s₁.client.buffer ++ encodeCommands s₁.resubscription) = _
    rw [hopened.written, hbuffer]
    rfl
  · intro table key hsent
    obtain ⟨holder, hholder⟩ := registered_of_resubscription hsent
    refine ⟨holder, Eq.trans ?_ ((hentries table key).trans hholder)⟩
    cases table <;> rfl

/-- A lost connection, with all attempts to open another one. -/
theorem drop_ended (hn : Silent notify) {attempts : List Attempt} (hr : s.reconnecting = false)
    (hset : s.client.disconnectionHandler = true)
    (hd : Subscriber.drop notify id id attempts s = .ok true s') : Ended s s' := by
  unfold Subscriber.drop tcpClientDisconnectionHandler callDisconnectionHandler at hd
  have hset' : (connection.get s.lost).disconnectionHandler = true := hset
  have hlost : connection.update RedisConnection.clear (id (connection.update RedisConnection.lose s)) =
      s.lost := rfl
  rw [modify_bind, modify_bind, modify_bind, hlost, get_bind, if_pos hset'] at hd
  have hresume {s s' : Subscriber κ} (hr : resume s = .ok () s') :
      s.client.isConnected = true ∧ s'.client.isConnected = true := by
    obtain ⟨hc, hclient, -⟩ := resume_ok hr
    rw [hclient]
    exact ⟨hc, hc⟩
  have hidle : ((owner notify).session.get s.lost).reconnecting = false := hr
  -- `s₀` is the state in which the handler takes the lock
  obtain ⟨s₀, hlock⟩ : ∃ s₀, after ((owner notify).notifyState .dropped) (s.begun notify) = s₀ :=
    ⟨_, rfl⟩
  have hdropped : Unmoved (s.begun notify) s₀ := by
    rw [← hlock]
    unfold Owner.notifyState Owner.callConnectCallback
    rw [after_get_bind, after_get_bind]
    split
    · rw [after_modify_bind]
      have hnotify (n : Notification) : (owner notify).notify n = notify n := rfl
      rw [hnotify, hn]
      exact ⟨⟨rfl, rfl, rfl, rfl, rfl, rfl, rfl⟩, rfl, rfl, rfl⟩
    · exact ⟨.refl _, rfl, rfl, rfl⟩
  rcases (idle_unmoved hn).handler_ok hresume hidle (show id _ = s₀ from hlock) hdropped.connected hd with
    ⟨s₁, s₂, s₃, h₁, hgiveUp, h₃, rfl⟩ | ⟨s₁, s₂, hopens, hresumed, rfl⟩
  · exact .gaveUp hdropped hdropped.connected h₁ hgiveUp h₃
  · exact .resumed hdropped hopens hresumed

end Connecting

/-! ## The subscriber and its server -/

/-- A subscriber and its server: the number of the commands of the connection that were carried
out, the letters written on it, their bytes that were not read yet, and the number of letters
that were read. `before` is the number of calls that were heard before this connection,
and `pushed` are the messages of all connections. -/
structure Broadcast (κ : Type) where
  subscriber : Subscriber κ
  executed : Nat := 0
  letters : List Letter := []
  inFlight : Bytes := []
  handed : Nat := 0
  before : Nat := 0
  pushed : List Push := []

namespace Broadcast

inductive Event (κ : Type)
  | act (a : Action κ)
  | connect (p : Session.ConnectParams) (accepted : Bool)
  | connectByName (name : Bytes) (p : Session.ConnectParams) (lookup : Lookup) (accepted : Bool)
  | disconnect
  | answer (value : Value) (h : IsAnswer value)
  | push (p : Push)
  | chunk (size : Nat) (callbacks : List (List (Action κ)))
  | drop (attempts : List Attempt)

/-- The calls that the user makes, or that are made in a callback if it is called. -/
def Event.actions : Event κ → List (Action κ)
  | .act a => [a]
  | .chunk _ callbacks => callbacks.flatten
  | _ => []

/-- A subscriber that was made and not used yet. -/
def new (sentinel : Sentinel) (what : String) : Broadcast κ where
  subscriber := { client := { client := { what := what } }, sentinel := sentinel }

/-- The commands that the server has carried out on this connection. -/
def carriedOut (w : Broadcast κ) : List Command :=
  ((decodeCommands w.subscriber.client.client.written).getD []).take w.executed

section Steps

variable (notify : Notification → EStateM Fault (Subscriber κ) Unit)

/-- The server answers a command that it was sent, and writes messages for what it has subscribed
the connection to. A handler of a lost connection is left. -/
def Enabled (w : Broadcast κ) : Event κ → Prop
  | .answer value _ =>
    w.subscriber.client.isConnected = true ∧ value.WellFormed ∧
      ∃ written ∈ decodeCommands w.subscriber.client.client.written, w.executed < written.length
  | .push p =>
    w.subscriber.client.isConnected = true ∧ p.value.WellFormed ∧
      p.key ∈ (executeAll w.carriedOut).keys p.table
  | .chunk _ _ =>
    w.subscriber.client.isConnected = true ∧ 0 < w.subscriber.client.client.reads
  | .drop attempts =>
    w.subscriber.client.isConnected = true ∧
      Procedure.value (Subscriber.drop notify id id attempts) w.subscriber = some true
  | _ => True

/-- The server writes a letter. -/
def write (w : Broadcast κ) (letter : Letter) : Broadcast κ :=
  { w with letters := w.letters ++ [letter], inFlight := w.inFlight ++ letter.value.encode }

/-- A chunk is cut off the bytes in flight. -/
def read (w : Broadcast κ) (size : Nat) (callbacks : List (List (Action κ))) : Broadcast κ :=
  { w with
    subscriber :=
      after (Subscriber.receive notify (some (w.inFlight.take size)) (callbacks.map doing) id [])
        (connection.update RedisConnection.completeRead w.subscriber)
    inFlight := w.inFlight.drop size
    handed := w.handed +
      (w.subscriber.client.builder.feed (w.inFlight.take size)).1.availableReplies.length }

/-- The connection is lost, or closed. -/
def leave (w : Broadcast κ) (s : Subscriber κ) : Broadcast κ :=
  { subscriber := s, before := s.heard.length, pushed := w.pushed }

def step (w : Broadcast κ) : Event κ → Broadcast κ
  | .act a => { w with subscriber := a.run w.subscriber }
  | .connect p accepted =>
    { w with subscriber := after (Subscriber.connect notify p accepted) w.subscriber }
  | .connectByName name p lookup accepted =>
    { w with
      subscriber := after (Subscriber.connectByName notify name p lookup accepted) w.subscriber }
  | .disconnect => w.leave w.subscriber.disconnect
  | .answer value h => { w.write (.answer value h) with executed := w.executed + 1 }
  | .push p => { w.write (.push p) with pushed := w.pushed ++ [p] }
  | .chunk size callbacks => w.read notify size callbacks
  | .drop attempts => w.leave (after (Subscriber.drop notify id id attempts) w.subscriber)

def machine : Machine (Broadcast κ) (Event κ) :=
  ⟨Enabled notify, step notify⟩

end Steps

/-- The messages of the connection that were read. -/
def arrived (w : Broadcast κ) : List Push :=
  (w.letters.take w.handed).filterMap Letter.push?

/-- The calls of message callbacks since the connection was opened. -/
def heardHere (w : Broadcast κ) : List (κ × Bytes × Bytes) :=
  w.subscriber.heard.drop w.before

/-! ### The invariant -/

section Invariant

variable {given : Table → Bytes → κ → Prop} {kept : Table → Bytes → Prop} {w : Broadcast κ}
  {s' : Subscriber κ} {notify : Notification → EStateM Fault (Subscriber κ) Unit}

/-- An open connection. -/
structure Open (given : Table → Bytes → κ → Prop) (kept : Table → Bytes → Prop) (w : Broadcast κ) :
    Prop where
  connected : w.subscriber.client.client.connected = true
  replyCallback : w.subscriber.client.replyCallback = true
  disconnectionHandler : w.subscriber.client.disconnectionHandler = true
  known : Known kept w.subscriber w.letters
  handed : w.handed ≤ w.letters.length
  pending : w.subscriber.client.builder.Pending w.inFlight ((w.letters.drop w.handed).map Letter.value)
  settled : w.subscriber.client.builder.Settled
  relayed : Relayed given kept w.arrived w.heardHere

/-- A closed connection: nothing is left of the one before. -/
structure Shut (w : Broadcast κ) : Prop where
  closed : w.subscriber.client.client.connected = false
  builder : w.subscriber.client.builder = {}
  letters : w.letters = []
  inFlight : w.inFlight = []
  handed : w.handed = 0
  before : w.subscriber.heard.length = w.before

structure Inv (given : Table → Bytes → κ → Prop) (kept : Table → Bytes → Prop) (w : Broadcast κ) :
    Prop where
  reconnecting : w.subscriber.reconnecting = false
  holding : ∃ sent held, Holding given kept w.subscriber sent held
  before : w.before ≤ w.subscriber.heard.length
  earlier : ∃ earlier, w.pushed = earlier ++ w.letters.filterMap Letter.push? ∧
    Relayed given (fun _ _ => False) earlier (w.subscriber.heard.take w.before)
  link : w.Shut ∨ w.Open given kept

/-- When nothing is on its way any more, every letter was read. -/
theorem Open.arrived_all (h : w.Open given kept) (hinFlight : w.inFlight = []) :
    w.arrived = w.letters.filterMap Letter.push? := by
  have hpending := h.pending
  rw [hinFlight] at hpending
  have hnone := List.map_eq_nil_iff.mp (hpending.none_left h.settled)
  unfold arrived
  rw [List.take_of_length_le (List.drop_eq_nil_iff.mp hnone)]

namespace Inv

/-- What was heard on all connections. -/
theorem overall (h : w.Inv given kept) :
    Relayed given (fun _ _ => False) w.pushed w.subscriber.heard := by
  obtain ⟨earlier, hpushed, hrelayed⟩ := h.earlier
  rw [hpushed, ← List.take_append_drop w.before w.subscriber.heard]
  refine hrelayed.append ?_
  rcases h.link with hshut | hopen
  · rw [hshut.letters, List.drop_of_length_le hshut.before.le]
    exact .nil
  · rw [← List.take_append_drop w.handed w.letters, List.filterMap_append]
    exact (hopen.relayed.weaken fun _ hfalse => hfalse.elim).lost fun _ _ hfalse => hfalse

/-- The subscriber changes in nothing that the connection and its letters are concerned with. -/
theorem follow (h : w.Inv given kept) (hlinked : Linked w.subscriber s')
    (hheard : s'.heard = w.subscriber.heard) (hholding : ∃ sent held, Holding given kept s' sent held)
    (hkeys : KeepsKeys kept w.subscriber s') : Inv given kept { w with subscriber := s' } := by
  refine ⟨hlinked.reconnecting.trans h.reconnecting, hholding, hheard ▸ h.before, ?_, ?_⟩
  · obtain ⟨earlier, hpushed, hrelayed⟩ := h.earlier
    exact ⟨earlier, hpushed, hheard ▸ hrelayed⟩
  · rcases h.link with hshut | hopen
    · exact .inl ⟨hlinked.connected.trans hshut.closed, hlinked.builder.trans hshut.builder,
        hshut.letters, hshut.inFlight, hshut.handed, hheard ▸ hshut.before⟩
    · refine .inr ⟨hlinked.connected.trans hopen.connected,
        hlinked.replyCallback.trans hopen.replyCallback,
        hlinked.disconnectionHandler.trans hopen.disconnectionHandler,
        fun p hp hk => hkeys _ _ hk (hopen.known p hp hk), hopen.handed, ?_,
        hlinked.builder.symm ▸ hopen.settled, ?_⟩
      · show s'.client.builder.Pending _ _
        rw [hlinked.builder]
        exact hopen.pending
      · show Relayed given kept w.arrived (s'.heard.drop w.before)
        rw [hheard]
        exact hopen.relayed

theorem act (h : w.Inv given kept) {a : Action κ} (ha : a.Within given kept) :
    Inv given kept { w with subscriber := a.run w.subscriber } := by
  obtain ⟨sent, held, hholding⟩ := h.holding
  obtain ⟨hacted, hkeys⟩ := hholding.action ha
  have hcalm := a.calm w.subscriber
  exact h.follow hcalm.toLinked (congrArg (List.filterMap heardOf) hcalm.invoked) hacted hkeys

/-- Connecting: nothing changes, or a closed connection is opened. -/
theorem opens (h : w.Inv given kept)
    (hopens : Unmoved w.subscriber s' ∨ w.subscriber.client.client.connected = false ∧
      (owner notify).Opens Unmoved w.subscriber s') :
    Inv given kept { w with subscriber := s' } := by
  obtain ⟨sent, held, hholding⟩ := h.holding
  rcases hopens with hunmoved | ⟨hclosed, hopens⟩
  · refine h.follow hunmoved.linked (congrArg (List.filterMap heardOf) hunmoved.invoked)
      ⟨sent, held, ?_⟩ fun table key _ hregistered => ?_
    · exact hholding.congr hunmoved.connected hunmoved.written hunmoved.buffer hunmoved.entries
    · obtain ⟨holder, hholder⟩ := hregistered
      exact ⟨holder, (hunmoved.entries table key).trans hholder⟩
  · have hopened := Reopened.of_opens hopens
    have hheard : s'.heard = w.subscriber.heard := congrArg (List.filterMap heardOf) hopened.invoked
    have hentries (table : Table) (key : Bytes) :
        (table.entries s')[key]? = (table.entries w.subscriber)[key]? := by
      cases table with
      | channels => exact congrArg (·[key]?) hopened.channels
      | patterns => exact congrArg (·[key]?) hopened.patterns
    rcases h.link with hshut | hopen
    · obtain rfl := hholding.unwritten hclosed
      refine ⟨hopened.reconnecting.trans h.reconnecting, ⟨[], held, ?_⟩, hheard ▸ h.before, ?_,
        .inr ⟨hopened.connected, hopened.replyCallback, hopened.handled, ?_, ?_, ?_, ?_, ?_⟩⟩
      · refine ⟨fun _ => hopened.written, fun hc => ?_, hopened.buffer.trans hholding.buffer, ?_, ?_⟩
        · exact absurd (hopened.connected.symm.trans hc) Bool.noConfusion
        · intro table key holder hholder
          exact hholding.entries table key holder ((hentries table key).symm.trans hholder)
        · intro table key hk hsent
          obtain ⟨holder, hholder⟩ := hholding.registered table key hk hsent
          exact ⟨holder, (hentries table key).trans hholder⟩
      · obtain ⟨earlier, hpushed, hrelayed⟩ := h.earlier
        exact ⟨earlier, hpushed, hheard ▸ hrelayed⟩
      · show Known kept s' w.letters
        rw [hshut.letters]
        exact fun p hp => absurd hp List.not_mem_nil
      · show w.handed ≤ w.letters.length
        rw [hshut.handed]
        exact Nat.zero_le _
      · show s'.client.builder.Pending w.inFlight ((w.letters.drop w.handed).map Letter.value)
        rw [hopened.builder, hshut.builder, hshut.inFlight, hshut.letters, hshut.handed]
        exact .new
      · show s'.client.builder.Settled
        rw [hopened.builder, hshut.builder]
        exact ReplyBuilder.settled_new
      · show Relayed given kept ((w.letters.take w.handed).filterMap Letter.push?)
          (s'.heard.drop w.before)
        rw [hshut.letters, hshut.handed, hheard, List.drop_of_length_le hshut.before.le]
        exact .nil
    · exact absurd (hopen.connected.symm.trans hclosed) Bool.noConfusion

/-- The parser has handed out all replies that it has made. -/
theorem reset (h : w.Inv given kept) : w.subscriber.client.builder.reset = {} := by
  have hnone : w.subscriber.client.builder.availableReplies = [] := by
    rcases h.link with hshut | hopen
    · rw [hshut.builder]
    · exact hopen.pending.none_available
  unfold ReplyBuilder.reset
  rw [hnone]

/-- The connection is left, for no other one or for one with the commands `sent`. -/
theorem leave (h : w.Inv given kept) (sent : List Command)
    (hreconnecting : s'.reconnecting = false) (hinvoked : s'.invoked = w.subscriber.invoked)
    (hbuilder : s'.client.builder = w.subscriber.client.builder.reset)
    (hholding : Holding given kept s' sent [])
    (hset : s'.client.client.connected = true →
      s'.client.replyCallback = true ∧ s'.client.disconnectionHandler = true) :
    Inv given kept (w.leave s') := by
  have hheard : s'.heard = w.subscriber.heard := congrArg (List.filterMap heardOf) hinvoked
  refine ⟨hreconnecting, ⟨sent, [], hholding⟩, Nat.le_refl _, ⟨w.pushed, ?_, ?_⟩, ?_⟩
  · exact (List.append_nil w.pushed).symm
  · show Relayed given _ w.pushed (s'.heard.take s'.heard.length)
    rw [List.take_length, hheard]
    exact h.overall
  · have hnew : s'.client.builder = {} := hbuilder.trans h.reset
    cases hc : s'.client.client.connected with
    | false => exact .inl ⟨hc, hnew, rfl, rfl, rfl, rfl⟩
    | true =>
      refine .inr ⟨hc, (hset hc).1, (hset hc).2, fun p hp => absurd hp List.not_mem_nil,
        Nat.le_refl 0, ?_, hnew ▸ ReplyBuilder.settled_new, ?_⟩
      · show s'.client.builder.Pending [] []
        rw [hnew]
        exact .new
      · show Relayed given kept [] (s'.heard.drop s'.heard.length)
        rw [List.drop_length]
        exact .nil

theorem disconnect (h : w.Inv given kept) : Inv given kept (w.leave w.subscriber.disconnect) := by
  obtain ⟨sent, held, hholding⟩ := h.holding
  refine h.leave [] h.reconnecting rfl rfl ⟨nofun, fun _ => rfl, rfl, ?_, ?_⟩ nofun
  · intro table key holder hholder
    exact hholding.entries table key holder (by cases table <;> exact hholder)
  · rintro table key - ⟨keys, hmem, -⟩
    exact absurd hmem List.not_mem_nil

theorem drop (hn : Silent notify) (h : w.Inv given kept)
    (hc : w.subscriber.client.client.connected = true) {attempts : List Attempt}
    (hd : Subscriber.drop notify id id attempts w.subscriber = .ok true s') :
    Inv given kept (w.leave s') := by
  obtain ⟨sent, held, hholding⟩ := h.holding
  rcases h.link with hshut | hopen
  · exact absurd (hc.symm.trans hshut.closed) Bool.noConfusion
  · have hended := drop_ended hn h.reconnecting hopen.disconnectionHandler hd
    rcases hended.outcome with
      ⟨hclosed, hchannels, hpatterns⟩ | ⟨hconnected, hreply, hdisconnection, hentries, cmds, hwritten, hcmds⟩
    · refine h.leave [] hended.reconnecting hended.invoked hended.builder
        ⟨fun hopen' => ?_, fun _ => rfl, hended.buffer, ?_, ?_⟩
        fun hopen' => absurd (hopen'.symm.trans hclosed) Bool.noConfusion
      · exact absurd (hopen'.symm.trans hclosed) Bool.noConfusion
      · intro table key holder hholder
        have hnone : (table.entries s')[key]? = none := by
          cases table with
          | channels =>
            refine (congrArg (·[key]?) hchannels).trans ?_
            exact Std.TreeMap.getElem?_emptyc
          | patterns =>
            refine (congrArg (·[key]?) hpatterns).trans ?_
            exact Std.TreeMap.getElem?_emptyc
        exact absurd (hholder.symm.trans hnone) (Option.some_ne_none holder)
      · rintro table key - ⟨keys, hmem, -⟩
        exact absurd hmem List.not_mem_nil
    · refine h.leave cmds hended.reconnecting hended.invoked hended.builder
        ⟨fun _ => hwritten, fun hclosed => ?_, hended.buffer, ?_, ?_⟩ fun _ => ⟨hreply, hdisconnection⟩
      · exact absurd (hconnected.symm.trans hclosed) Bool.noConfusion
      · intro table key holder hholder
        exact hholding.entries table key holder ((hentries table key).symm.trans hholder)
      · intro table key _ hsent
        rw [List.append_nil] at hsent
        exact hcmds table key hsent

/-- The server writes a letter. -/
theorem write (h : w.Inv given kept) (hc : w.subscriber.client.client.connected = true)
    (letter : Letter) (hletter : letter.value.WellFormed) (executed : Nat) {pushed : List Push}
    (hpushed : pushed = w.pushed ++ letter.push?.toList)
    (hknown : ∀ p, letter = .push p → kept p.table p.key → w.subscriber.Registered p.table p.key) :
    Inv given kept { w.write letter with executed := executed, pushed := pushed } := by
  rcases h.link with hshut | hopen
  · exact absurd (hc.symm.trans hshut.closed) Bool.noConfusion
  · refine ⟨h.reconnecting, h.holding, h.before, ?_, .inr ⟨hopen.connected, hopen.replyCallback,
      hopen.disconnectionHandler, fun p hp hk => ?_, ?_, ?_, hopen.settled, ?_⟩⟩
    · obtain ⟨earlier, hearlier, hrelayed⟩ := h.earlier
      refine ⟨earlier, ?_, hrelayed⟩
      show pushed = earlier ++ (w.letters ++ [letter]).filterMap Letter.push?
      rw [hpushed, hearlier, List.filterMap_append, List.append_assoc]
      cases letter <;> rfl
    · rcases List.mem_append.mp hp with hold | hnew
      · exact hopen.known p hold hk
      · exact hknown p (List.mem_singleton.mp hnew).symm hk
    · show w.handed ≤ (w.letters ++ [letter]).length
      rw [List.length_append]
      exact hopen.handed.trans (Nat.le_add_right _ _)
    · show w.subscriber.client.builder.Pending (w.inFlight ++ letter.value.encode)
        (((w.letters ++ [letter]).drop w.handed).map Letter.value)
      rw [List.drop_append_of_le_length hopen.handed, List.map_append]
      exact hopen.pending.answer hletter
    · show Relayed given kept (((w.letters ++ [letter]).take w.handed).filterMap Letter.push?) w.heardHere
      rw [List.take_append_of_le_length hopen.handed]
      exact hopen.relayed

/-- The server has subscribed the connection to what is registered, as far as it is to be kept. -/
theorem registered (h : w.Inv given kept) (hc : w.subscriber.client.client.connected = true)
    {table : Table} {key : Bytes} (hkey : key ∈ (executeAll w.carriedOut).keys table)
    (hk : kept table key) : w.subscriber.Registered table key := by
  obtain ⟨sent, held, hholding⟩ := h.holding
  obtain ⟨keys, hmem, hkeys⟩ := sentIn_of_mem_executeAll hkey
  unfold carriedOut at hmem
  rw [hholding.written hc, decodeCommands_encodeCommands] at hmem
  exact hholding.registered table key hk
    ⟨keys, List.mem_append_left _ (List.mem_of_mem_take hmem), hkeys⟩

/-- A chunk: the messages among the letters that it completes are heard. -/
theorem read (notify : Notification → EStateM Fault (Subscriber κ) Unit) (h : w.Inv given kept)
    (hc : w.subscriber.client.client.connected = true) (size : Nat)
    {callbacks : List (List (Action κ))}
    (hcallbacks : ∀ as ∈ callbacks, ∀ a ∈ as, a.Within given kept) :
    Inv given kept (w.read notify size callbacks) := by
  rcases h.link with hshut | hopen
  · exact absurd (hc.symm.trans hshut.closed) Bool.noConfusion
  obtain ⟨sent, held, hholding⟩ := h.holding
  have hpending := hopen.pending
  have hdrop : (w.letters.drop w.handed).map Letter.value =
      (w.letters.map Letter.value).drop w.handed := List.map_drop
  have hlength : w.handed ≤ (w.letters.map Letter.value).length := by
    rw [List.length_map]
    exact hopen.handed
  rw [hdrop] at hpending
  obtain ⟨b, replies, hfeed, hle, hreplies, hlater⟩ := hpending.read hlength size
  -- the letters that the chunk completes
  obtain ⟨letters, hletters⟩ : ∃ letters, (w.letters.drop w.handed).take replies.length = letters :=
    ⟨_, rfl⟩
  have hcompleted : replies = letters.map fun l => l.value.toReply := by
    refine hreplies.trans ?_
    rw [← List.map_drop, ← List.map_take, List.map_map, hletters]
    rfl
  have hcount : letters.length = replies.length := by
    rw [hcompleted, List.length_map]
  have htake : w.letters.take (w.handed + letters.length) = w.letters.take w.handed ++ letters := by
    rw [List.take_add, hcount, hletters]
  have hread : Holding given kept (connection.update RedisConnection.completeRead w.subscriber) sent
      held :=
    hholding.congr rfl rfl rfl fun table _ => by cases table <;> rfl
  have hknown : Known kept (connection.update RedisConnection.completeRead w.subscriber) letters := by
    intro p hp hk
    have hmem := List.mem_of_mem_drop (List.mem_of_mem_take (hletters.symm ▸ hp))
    have hregistered := hopen.known p hmem hk
    cases p <;> exact hregistered
  obtain ⟨calls, hheard, hrelayed, hlinked, hholding', hkeys⟩ :=
    receive_letters notify hread hknown hcallbacks hc hopen.replyCallback hlater.none_available
      (hcompleted ▸ hfeed)
  unfold Broadcast.read
  generalize after (Subscriber.receive notify (some (w.inFlight.take size)) (callbacks.map doing) id [])
    (connection.update RedisConnection.completeRead w.subscriber) = s' at hheard hlinked hholding' hkeys
  have hhanded : (w.subscriber.client.builder.feed (w.inFlight.take size)).1.availableReplies.length =
      letters.length := by
    rw [hfeed, hcount]
    exact congrArg List.length (b.availableReplies_prepend hlater.none_available replies)
  rw [hhanded]
  have hbefore : s'.heard = w.subscriber.heard ++ calls := hheard
  refine ⟨hlinked.reconnecting.trans h.reconnecting, hholding', ?_, ?_,
    .inr ⟨?_, ?_, ?_, ?_, ?_, ?_, ?_, ?_⟩⟩
  · show w.before ≤ s'.heard.length
    rw [hbefore, List.length_append]
    exact h.before.trans (Nat.le_add_right _ _)
  · obtain ⟨earlier, hpushed, hearlier⟩ := h.earlier
    refine ⟨earlier, hpushed, ?_⟩
    show Relayed given _ earlier (s'.heard.take w.before)
    rw [hbefore, List.take_append_of_le_length h.before]
    exact hearlier
  · exact hlinked.connected.trans hc
  · exact hlinked.replyCallback.trans hopen.replyCallback
  · exact hlinked.disconnectionHandler.trans hopen.disconnectionHandler
  · intro p hp hk
    have hregistered := hopen.known p hp hk
    exact hkeys _ _ hk (by cases p <;> exact hregistered)
  · show w.handed + letters.length ≤ w.letters.length
    rw [hcount, ← List.length_map (f := Letter.value)]
    exact hle
  · show s'.client.builder.Pending (w.inFlight.drop size)
      ((w.letters.drop (w.handed + letters.length)).map Letter.value)
    rw [hlinked.builder, hcount, List.map_drop]
    exact hlater
  · show s'.client.builder.Settled
    rw [hlinked.builder]
    exact ReplyBuilder.settled_of_prepend hfeed
  · show Relayed given kept ((w.letters.take (w.handed + letters.length)).filterMap Letter.push?)
      (s'.heard.drop w.before)
    rw [htake, List.filterMap_append, hbefore, List.drop_append_of_le_length h.before]
    exact hopen.relayed.append hrelayed

/-- The invariant is kept by every step with calls that keep to what is given and kept. -/
theorem step (hn : Silent notify) (h : w.Inv given kept) {e : Event κ} (he : w.Enabled notify e)
    (hactions : ∀ a ∈ e.actions, a.Within given kept) : Inv given kept (w.step notify e) := by
  cases e with
  | act a => exact h.act (hactions a (List.mem_singleton.mpr rfl))
  | connect p accepted => exact h.opens (connect_opens hn p accepted w.subscriber)
  | connectByName name p lookup accepted =>
    exact h.opens (connectByName_opens hn name p lookup accepted w.subscriber)
  | disconnect => exact h.disconnect
  | answer value hvalue =>
    exact h.write he.1 (.answer value hvalue) he.2.1 (w.executed + 1)
      (List.append_nil w.pushed).symm nofun
  | push p =>
    refine h.write he.1 (.push p) he.2.1 w.executed rfl fun p' hp' hk => ?_
    obtain rfl := Letter.push.inj hp'
    exact h.registered he.1 he.2.2 hk
  | chunk size callbacks =>
    exact h.read notify he.1 size fun as has a ha => hactions a (List.mem_flatten.mpr ⟨as, has, ha⟩)
  | drop attempts =>
    have hd := eq_ok_of_value he.2
    show Inv given kept (w.leave (after (Subscriber.drop notify id id attempts) w.subscriber))
    exact h.drop hn he.1 hd

theorem new (sentinel : Sentinel) (what : String) : Inv given kept (new sentinel what : Broadcast κ) := by
  refine ⟨rfl, ⟨[], [], nofun, fun _ => rfl, rfl, ?_, ?_⟩, Nat.le_refl 0, ⟨[], rfl, .nil⟩,
    .inl ⟨rfl, rfl, rfl, rfl, rfl, rfl⟩⟩
  · intro table key holder hholder
    have hnone : (table.entries (Broadcast.new sentinel what : Broadcast κ).subscriber)[key]? = none := by
      cases table <;> exact Std.TreeMap.getElem?_emptyc
    exact absurd (hholder.symm.trans hnone) (Option.some_ne_none holder)
  · rintro table key - ⟨keys, hmem, -⟩
    exact absurd hmem List.not_mem_nil

end Inv

end Invariant

/-! ## Runs -/

/-- The user has given this callback for this key in some call. -/
def Given (events : List (Event κ)) (table : Table) (key : Bytes) (callback : κ) : Prop :=
  ∃ e ∈ events, ∃ acknowledgement, .op (.subscribe table key callback acknowledgement) ∈ e.actions

/-- The user takes the subscription back in no call. -/
def Kept (events : List (Event κ)) (table : Table) (key : Bytes) : Prop :=
  ∀ e ∈ events, .op (.unsubscribe table key) ∉ e.actions

theorem within_events {events : List (Event κ)} {e : Event κ} (he : e ∈ events) {a : Action κ}
    (ha : a ∈ e.actions) : a.Within (Given events) (Kept events) := by
  cases a with
  | op o =>
    cases o with
    | subscribe table key callback acknowledgement => exact ⟨e, he, acknowledgement, ha⟩
    | unsubscribe table key => exact fun hkept => hkept e he ha
  | _ => trivial

theorem inv_run {notify : Notification → EStateM Fault (Subscriber κ) Unit} (hn : Silent notify)
    (sentinel : Sentinel) (what : String) {events : List (Event κ)}
    (h : (machine notify).Possible (new sentinel what) events) :
    Inv (Given events) (Kept events) ((machine notify).run (new sentinel what) events) :=
  h.invariant_of_kind (K := (· ∈ events))
    (fun _ _ hw he henabled => hw.step hn henabled fun _ ha => within_events he ha)
    (fun _ he => he) (.new sentinel what)

/-- Over all connections, the message callbacks are called for messages of the server, once each
and in their order, with their channel and their text, and with a callback that the user gave for
the channel or the pattern that the message is for. -/
theorem messages_heard {notify : Notification → EStateM Fault (Subscriber κ) Unit}
    (hn : Silent notify) (sentinel : Sentinel) (what : String) {events : List (Event κ)}
    (h : (machine notify).Possible (new sentinel what) events) :
    let w := (machine notify).run (new sentinel what) events
    ∃ passed, passed.Sublist w.pushed ∧
      List.Forall₂ (fun p call => call.2 = p.text ∧ Given events p.table p.key call.1) passed
        w.subscriber.heard :=
  (inv_run hn sentinel what h).overall.exists_sublist

/-- A channel and a pattern. The connection is lost when a message is half read, and the
next one is subscribed to both again. -/
def news : List (Event Nat) :=
  [.act (.op (.subscribe .channels (ascii "news") 1 none)),
    .act (.op (.subscribe .patterns (ascii "n*") 2 none)),
    .connect { host := ascii "localhost", port := 6379, maxReconnects := 1 } true, .act .commit,
    .answer (.array [.bulkString (ascii "subscribe"), .bulkString (ascii "news"), .integer 1]) trivial,
    .push (.message (ascii "news") (ascii "a")), .push (.message (ascii "news") (ascii "b")),
    .chunk 80 [[.op (.subscribe .channels (ascii "old") 3 none)]], .drop [{ accepted := true }],
    .answer (.array [.bulkString (ascii "subscribe"), .bulkString (ascii "news"), .integer 1]) trivial,
    .push (.message (ascii "news") (ascii "c")), .chunk 100 []]

theorem possible_news : (machine fun _ => pure ()).Possible (new {} "") news := by
  have hanswer : (Value.array [.bulkString (ascii "subscribe"), .bulkString (ascii "news"),
      .integer 1]).WellFormed := by
    simp only [Value.WellFormed, Value.AllWellFormed]
    decide
  have hmessage (text : Bytes) (h : text.length = 1) :
      (Push.message (ascii "news") text).value.WellFormed := by
    simp only [Push.value, Value.WellFormed, Value.AllWellFormed, h]
    exact ⟨show 3 < 2 ^ 63 by decide, by decide, by decide, by decide, trivial⟩
  exact .intro trivial <| .intro trivial <| .intro trivial <| .intro trivial <|
    .intro ⟨by decide +kernel, hanswer, by decide +kernel⟩ <|
    .intro ⟨by decide +kernel, hmessage _ rfl, by decide +kernel⟩ <|
    .intro ⟨by decide +kernel, hmessage _ rfl, by decide +kernel⟩ <|
    .intro ⟨by decide +kernel, by decide +kernel⟩ <|
    .intro ⟨by decide +kernel, by decide +kernel⟩ <|
    .intro ⟨by decide +kernel, hanswer, by decide +kernel⟩ <|
    .intro ⟨by decide +kernel, hmessage _ rfl, by decide +kernel⟩ <|
    .intro ⟨by decide +kernel, by decide +kernel⟩ trivial

theorem messages_heard_news :
    let w := (machine fun _ => pure ()).run (new {} "") news
    ∃ passed, passed.Sublist w.pushed ∧
      List.Forall₂ (fun p call => call.2 = p.text ∧ Given news p.table p.key call.1) passed
        w.subscriber.heard :=
  messages_heard (fun _ _ => rfl) {} "" possible_news

/-- On an open connection, what was heard on it is made of the messages that were read: those of
channels and patterns that the user never unsubscribes from are all among them. Once nothing
is on its way any more, every letter of the server was read. -/
theorem messages_complete {notify : Notification → EStateM Fault (Subscriber κ) Unit}
    (hn : Silent notify) (sentinel : Sentinel) (what : String) {events : List (Event κ)}
    (h : (machine notify).Possible (new sentinel what) events) :
    let w := (machine notify).run (new sentinel what) events
    w.subscriber.client.isConnected = true →
      Relays (fun p call => call.2 = p.text ∧ Given events p.table p.key call.1)
          (fun p => Kept events p.table p.key) w.arrived w.heardHere ∧
        (w.inFlight = [] → w.arrived = w.letters.filterMap Letter.push?) := by
  have hw := inv_run hn sentinel what h
  generalize (machine notify).run (new sentinel what) events = w at hw
  dsimp only
  intro hc
  rcases hw.link with hshut | hopen
  · exact absurd (hc.symm.trans hshut.closed) Bool.noConfusion
  · exact ⟨hopen.relayed, hopen.arrived_all⟩

theorem messages_complete_news :
    let w := (machine fun _ => pure ()).run (new {} "") news
    Relays (fun p call => call.2 = p.text ∧ Given news p.table p.key call.1)
        (fun p => Kept news p.table p.key) w.arrived w.heardHere ∧
      (w.inFlight = [] → w.arrived = w.letters.filterMap Letter.push?) :=
  messages_complete (fun _ _ => rfl) {} "" possible_news (by decide +kernel)

end Broadcast

end Subscriber

end CppRedis
