import CppRedis.Dispatch
import CppRedis.Lib.Machine

/-!
# The reply to an `AUTH`

A subscriber does not remember which commands it still expects replies to: after a call
of `auth` the first reply that is no array goes to its callback, whichever command it
answers.

* `Pipeline`: a subscriber on one connection, and a server that answers its commands in
  order and publishes messages.
* `Quiet`: what everything but an `AUTH` and the call of its callback leaves alone.
* `Awaiting`, `Answered`: the two phases after a call of `auth`.
* `auth_answered_iff`: the callback gets the reply to its `AUTH`, and is not called
  otherwise, if and only if all replies between the call of `auth` and this one are arrays.
-/

namespace CppRedis

open Text Procedure

namespace Subscriber

variable {κ : Type}

/-! ## The pipeline -/

/-- A call other than `auth`. -/
inductive Act (κ : Type)
  | call (op : Op κ)
  | commit

def Act.run (s : Subscriber κ) : Act κ → Subscriber κ
  | .call op => op.run s
  | .commit => after Subscriber.commit s

/-- A callback that makes some calls. -/
def acting (acts : List (Act κ)) : EStateM Fault (Subscriber κ) Unit :=
  modify fun s => acts.foldl Act.run s

/-- Whether it is a call of a callback of `auth`. -/
def Heard : Invocation κ → Bool
  | .auth _ _ => true
  | _ => false

/-- A reply of the server, and the calls of callbacks of `auth` that it led to. -/
structure Answer (κ : Type) where
  reply : Reply
  calls : List (Invocation κ)

/-- A subscriber, the replies to its commands and the messages that it got besides. -/
structure Pipeline (κ : Type) where
  subscriber : Subscriber κ
  answers : List (Answer κ) := []
  published : List (Answer κ) := []

namespace Pipeline

inductive Event (κ : Type)
  | act (act : Act κ)
  | auth (password : Bytes) (callback : κ)
  | answer (reply : Reply) (user : List (Act κ))
  | publish (reply : Reply) (user : List (Act κ))

/-- Whether it is a call of `auth`. -/
def Event.isAuth : Event κ → Bool
  | .auth _ _ => true
  | _ => false

/-- The replies that a command may get. -/
def Admissible (redisCmd : Command) (reply : Reply) : Prop :=
  if redisCmd.head? = some (ascii "AUTH") then reply.isSimpleString = true ∨ reply.isError = true
  else reply.isArray = true ∨ reply.isError = true

instance (redisCmd : Command) (reply : Reply) : Decidable (Admissible redisCmd reply) := by
  unfold Admissible
  infer_instance

/-- The command that the server answers next. -/
def unanswered (p : Pipeline κ) : Option Command :=
  (decodeCommands p.subscriber.client.client.written).bind (·[p.answers.length]?)

/-- The commands written on the connection, and then those in the buffer. -/
def sent (p : Pipeline κ) : Option (List Command) :=
  decodeCommands (p.subscriber.client.client.written ++ p.subscriber.client.buffer)

/-- The server answers the commands that were written, in order; a message is an array. -/
def Enabled (p : Pipeline κ) : Event κ → Prop
  | .answer reply _ => ∃ redisCmd ∈ p.unanswered, Admissible redisCmd reply
  | .publish reply _ => reply.isArray = true
  | _ => True

instance (p : Pipeline κ) : (e : Event κ) → Decidable (Enabled p e)
  | .answer _ _ => inferInstanceAs (Decidable (∃ redisCmd ∈ p.unanswered, _))
  | .publish _ _ => inferInstanceAs (Decidable (_ = _))
  | .act _ => .isTrue trivial
  | .auth _ _ => .isTrue trivial

/-- A reply is handed to the subscriber. -/
def receive (reply : Reply) (user : List (Act κ)) (s : Subscriber κ) : Subscriber κ :=
  after (connectionReceiveHandler (some (acting user)) reply) s

/-- A reply, and what the subscriber did with it. -/
def answerOf (reply : Reply) (s s' : Subscriber κ) : Answer κ :=
  ⟨reply, (s'.invoked.drop s.invoked.length).filter Heard⟩

def step (p : Pipeline κ) : Event κ → Pipeline κ
  | .act act => { p with subscriber := act.run p.subscriber }
  | .auth password callback => { p with subscriber := p.subscriber.auth password (some callback) }
  | .answer reply user =>
    let s := receive reply user p.subscriber
    { p with subscriber := s, answers := p.answers ++ [answerOf reply p.subscriber s] }
  | .publish reply user =>
    let s := receive reply user p.subscriber
    { p with subscriber := s, published := p.published ++ [answerOf reply p.subscriber s] }

def machine : Machine (Pipeline κ) (Event κ) :=
  ⟨Enabled, step⟩

instance (p : Pipeline κ) (e : Event κ) : Decidable (machine.enabled p e) :=
  inferInstanceAs (Decidable (Enabled p e))

/-- A subscriber that was made with a session. -/
def start (t : Session) : Pipeline κ :=
  { subscriber := { toSession := t } }

/-- The callback was called once, by the reply to the command of that number and with this reply. -/
def AuthAnswered (p : Pipeline κ) (callback : κ) (number : Nat) : Prop :=
  (∀ i answer, p.answers[i]? = some answer →
    answer.calls = if i = number then [.auth callback answer.reply] else []) ∧
  ∀ answer ∈ p.published, answer.calls = []

/-! ## What an `AUTH` is not concerned with -/

/-- On an open connection, the commands written and those in the buffer. -/
def Sends (commands : List Command) (s : Subscriber κ) : Prop :=
  s.client.client.connected = true ∧ ∃ written buffered, written ++ buffered = commands ∧
    s.client.client.written = encodeCommands written ∧ s.client.buffer = encodeCommands buffered

theorem Sends.sendCommand {commands : List Command} {s : Subscriber κ} (h : Sends commands s)
    (redisCmd : Command) : Sends (commands ++ [redisCmd]) (s.sendCommand redisCmd) := by
  obtain ⟨hopen, written, buffered, rfl, hwritten, hbuffer⟩ := h
  refine ⟨hopen, written, buffered ++ [redisCmd], (List.append_assoc _ _ _).symm, hwritten, ?_⟩
  show s.client.buffer ++ buildCommand redisCmd = _
  rw [hbuffer, encodeCommands_append, encodeCommands_singleton]

/-- It leaves the callback of `auth` alone, and only adds commands. -/
structure Quiet (s s' : Subscriber κ) : Prop where
  auth : s'.authReplyCallback = s.authReplyCallback
  invoked : ∃ calls, s'.invoked = s.invoked ++ calls ∧ ∀ call ∈ calls, Heard call = false
  sends : ∀ commands, Sends commands s → ∃ more, Sends (commands ++ more) s'

namespace Quiet

theorem refl (s : Subscriber κ) : Quiet s s :=
  ⟨rfl, ⟨[], (List.append_nil _).symm, fun _ h => absurd h List.not_mem_nil⟩,
    fun commands h => ⟨[], by rw [List.append_nil]; exact h⟩⟩

theorem trans {s₁ s₂ s₃ : Subscriber κ} (h : Quiet s₁ s₂) (h' : Quiet s₂ s₃) : Quiet s₁ s₃ where
  auth := h'.auth.trans h.auth
  invoked := by
    obtain ⟨calls, hcalls, hquiet⟩ := h.invoked
    obtain ⟨calls', hcalls', hquiet'⟩ := h'.invoked
    refine ⟨calls ++ calls', by rw [hcalls', hcalls, List.append_assoc], fun call hcall => ?_⟩
    exact (List.mem_append.mp hcall).elim (hquiet call) (hquiet' call)
  sends commands hs := by
    obtain ⟨more, hmore⟩ := h.sends commands hs
    obtain ⟨more', hmore'⟩ := h'.sends _ hmore
    exact ⟨more ++ more', by rw [← List.append_assoc]; exact hmore'⟩

theorem act (a : Act κ) (s : Subscriber κ) : Quiet s (a.run s) := by
  have hcalls (s' : Subscriber κ) (h : s'.invoked = s.invoked) :
      ∃ calls, s'.invoked = s.invoked ++ calls ∧ ∀ call ∈ calls, Heard call = false :=
    ⟨[], by rw [h, List.append_nil], fun _ h => absurd h List.not_mem_nil⟩
  cases a with
  | commit =>
    have hrun : Act.run s .commit = connection.set (after RedisConnection.commit s.client) s :=
      connection.after_zoom _ s
    rw [hrun]
    refine ⟨rfl, hcalls _ rfl, fun commands hs => ⟨[], ?_⟩⟩
    obtain ⟨hopen, written, buffered, rfl, hwritten, hbuffer⟩ := hs
    rw [after_ok (RedisConnection.commit_connected hopen), List.append_nil]
    refine ⟨hopen, written ++ buffered, [], List.append_nil _, ?_, rfl⟩
    show s.client.client.written ++ s.client.buffer = _
    rw [hwritten, hbuffer, encodeCommands_append]
  | call op =>
    cases op with
    | subscribe table key callback acknowledgement =>
      cases table with
      | channels =>
        exact ⟨rfl, hcalls _ rfl, fun commands hs =>
          ⟨[[ascii "SUBSCRIBE", key]], hs.sendCommand _⟩⟩
      | patterns =>
        exact ⟨rfl, hcalls _ rfl, fun commands hs =>
          ⟨[[ascii "PSUBSCRIBE", key]], hs.sendCommand _⟩⟩
    | unsubscribe table key =>
      cases table with
      | channels =>
        show Quiet s (s.unsubscribe key)
        unfold unsubscribe
        split
        · exact ⟨rfl, hcalls _ rfl, fun commands hs =>
            ⟨[[ascii "UNSUBSCRIBE", key]], hs.sendCommand _⟩⟩
        · exact .refl s
      | patterns =>
        show Quiet s (s.punsubscribe key)
        unfold punsubscribe
        split
        · exact ⟨rfl, hcalls _ rfl, fun commands hs =>
            ⟨[[ascii "PUNSUBSCRIBE", key]], hs.sendCommand _⟩⟩
        · exact .refl s

theorem acting (acts : List (Act κ)) (s : Subscriber κ) : Quiet s (after (acting acts) s) := by
  show Quiet s (acts.foldl Act.run s)
  induction acts generalizing s with
  | nil => exact .refl s
  | cons a acts ih => exact (act a s).trans (ih _)

/-- A call of a callback that is not one of `auth`. -/
theorem invoke (invocation : Invocation κ) (hquiet : Heard invocation = false)
    (acts : List (Act κ)) (s : Subscriber κ) :
    Quiet s (after (invoke invocation (Subscriber.acting acts)) s) := by
  have hcall : Quiet s { s with invoked := s.invoked ++ [invocation] } := by
    refine ⟨rfl, ⟨[invocation], rfl, ?_⟩, fun commands hs => ⟨[], ?_⟩⟩
    · intro call hcall
      rw [List.mem_singleton.mp hcall]
      exact hquiet
    · rw [List.append_nil]
      exact hs
  exact hcall.trans (acting acts _)

theorem callAcknowledgementCallback (acts : List (Act κ)) (channel : Bytes)
    (channels : Subscriptions κ) (nbChans : Int) (s : Subscriber κ) :
    Quiet s (after (callAcknowledgementCallback (Subscriber.acting acts) channel channels nbChans) s) := by
  unfold Subscriber.callAcknowledgementCallback
  split
  · exact .refl s
  · split
    · exact invoke _ rfl acts s
    · exact .refl s

theorem callMessageCallback (acts : List (Act κ)) (key channel message : Bytes)
    (channels : Subscriptions κ) (s : Subscriber κ) :
    Quiet s (after (callMessageCallback (Subscriber.acting acts) key channel message channels) s) := by
  unfold Subscriber.callMessageCallback
  split
  · exact .refl s
  · split
    · exact invoke _ rfl acts s
    · exact .refl s

/-- An array never goes to the callback of `auth`. -/
theorem receive {reply : Reply} (hreply : reply.isArray = true) (acts : List (Act κ))
    (s : Subscriber κ) : Quiet s (receive reply acts s) := by
  have harray : reply.asArray = .ok reply.rows := if_pos hreply
  unfold Pipeline.receive connectionReceiveHandler
  rw [Option.getD_some, harray]
  dsimp only
  split
  · split
    · unfold handleAcknowledgementReply
      split
      · split
        · rw [after_get_bind]
          split
          · exact callAcknowledgementCallback acts _ _ _ s
          · split
            · exact callAcknowledgementCallback acts _ _ _ s
            · exact .refl s
        · exact .refl s
      · exact .refl s
    · split
      · unfold handleSubscribeReply
        split
        · split
          · split
            · exact callMessageCallback acts _ _ _ _ s
            · exact .refl s
          · exact .refl s
        · exact .refl s
      · exact .refl s
  · unfold handlePsubscribeReply
    split
    · split
      · split
        · exact callMessageCallback acts _ _ _ _ s
        · exact .refl s
      · exact .refl s
    · exact .refl s
  · exact .refl s

/-- A reply that led to no call of the callback of `auth`. -/
theorem calls {s s' : Subscriber κ} (h : Quiet s s') (reply : Reply) :
    (answerOf reply s s').calls = [] := by
  obtain ⟨calls, hcalls, hquiet⟩ := h.invoked
  show (s'.invoked.drop s.invoked.length).filter Heard = []
  rw [hcalls, List.drop_left]
  exact List.filter_eq_nil_iff.mpr fun call hcall => by
    rw [hquiet call hcall]
    exact Bool.false_ne_true

end Quiet

/-- A reply that is no array goes to the callback of `auth`, if there is one, and the
callback is dropped. -/
theorem receive_none {reply : Reply} (hreply : reply.isArray = false) (acts : List (Act κ))
    {s : Subscriber κ} (hs : s.authReplyCallback = none) : receive reply acts s = s := by
  have hnone : reply.asArray = .error (.redisError "Reply is not an array") :=
    if_neg (by rw [hreply]; exact Bool.false_ne_true)
  unfold receive connectionReceiveHandler
  rw [hnone]
  dsimp only
  unfold handleAuthReply
  rw [after_get_bind, hs]
  rfl

/-- Without a callback of `auth` every reply is quiet. -/
theorem Quiet.receive_unheard {s : Subscriber κ} (hs : s.authReplyCallback = none) (reply : Reply)
    (acts : List (Act κ)) : Quiet s (Pipeline.receive reply acts s) := by
  cases hreply : reply.isArray with
  | true => exact .receive hreply acts s
  | false =>
    rw [receive_none hreply acts hs]
    exact .refl s

theorem receive_some {reply : Reply} (hreply : reply.isArray = false) (acts : List (Act κ))
    {s : Subscriber κ} {callback : κ} (hs : s.authReplyCallback = some (.user callback)) :
    receive reply acts s =
      { after (acting acts) { s with invoked := s.invoked ++ [.auth callback reply] } with
        authReplyCallback := none } := by
  have hnone : reply.asArray = .error (.redisError "Reply is not an array") :=
    if_neg (by rw [hreply]; exact Bool.false_ne_true)
  obtain ⟨t, channels, patterns, auth, invoked⟩ := s
  cases hs
  unfold receive connectionReceiveHandler
  rw [Option.getD_some, hnone]
  rfl

/-! ## Phases -/

/-- A position of a list with one more entry. -/
theorem getElem?_concat_eq_some {α : Type} {xs : List α} {x y : α} {i : Nat}
    (h : (xs ++ [x])[i]? = some y) : xs[i]? = some y ∨ i = xs.length ∧ y = x := by
  rw [List.getElem?_append] at h
  split at h
  · exact .inl h
  · next hi =>
    obtain ⟨hlt, hx⟩ := List.getElem?_eq_some_iff.mp h
    rw [List.length_singleton] at hlt
    exact .inr ⟨by omega, hx.symm.trans (List.getElem_singleton hlt)⟩

theorem not_isArray {reply : Reply} (h : reply.isSimpleString = true ∨ reply.isError = true) :
    reply.isArray = false := by
  obtain ⟨type, rows, strval, intval⟩ := reply
  cases type <;> first | rfl | exact h.elim (fun h => nomatch h) (fun h => nomatch h)

/-- No callback of `auth` was called. -/
def Silent (answers : List (Answer κ)) : Prop :=
  ∀ answer ∈ answers, answer.calls = []

theorem Silent.concat {answers : List (Answer κ)} (h : Silent answers) {answer : Answer κ}
    (hanswer : answer.calls = []) : Silent (answers ++ [answer]) := by
  intro answer' hmem
  rcases List.mem_append.mp hmem with hmem | hmem
  · exact h answer' hmem
  · rw [List.mem_singleton.mp hmem]
    exact hanswer

/-- `auth` was not called. -/
structure Before (p : Pipeline κ) : Prop where
  auth : p.subscriber.authReplyCallback = none
  answers : Silent p.answers
  published : Silent p.published
  sends : ∃ commands, Sends commands p.subscriber ∧ p.answers.length ≤ commands.length

/-- The callback of `auth` waits for the reply to the command after those `sent`. Since
the call, when `first` replies had come, all replies were arrays. -/
structure Awaiting (sent : List Command) (password : Bytes) (callback : κ) (first : Nat)
    (p : Pipeline κ) : Prop where
  auth : p.subscriber.authReplyCallback = some (.user callback)
  answers : Silent p.answers
  published : Silent p.published
  sends : ∃ more, Sends (sent ++ [ascii "AUTH", password] :: more) p.subscriber
  arrays : ∀ i answer, first ≤ i → p.answers[i]? = some answer → answer.reply.isArray = true
  first_le : first ≤ p.answers.length
  le_sent : p.answers.length ≤ sent.length

/-- The callback was called by the reply of that number, which is the first one after the
call of `auth` that is no array. -/
structure Answered (sent : List Command) (callback : κ) (first number : Nat) (p : Pipeline κ) :
    Prop where
  auth : p.subscriber.authReplyCallback = none
  answers : ∀ i answer, p.answers[i]? = some answer →
    answer.calls = if i = number then [.auth callback answer.reply] else []
  published : Silent p.published
  arrays : ∀ i answer, first ≤ i → i < number → p.answers[i]? = some answer →
    answer.reply.isArray = true
  other : ∃ answer, p.answers[number]? = some answer ∧ answer.reply.isArray = false
  first_le : first ≤ number
  le_sent : number ≤ sent.length

/-- The next reply is to one of the commands that were sent. -/
theorem exists_unanswered {p : Pipeline κ} {commands : List Command}
    (hs : Sends commands p.subscriber) {reply : Reply} {user : List (Act κ)}
    (h : machine.enabled p (.answer reply user)) :
    ∃ redisCmd, commands[p.answers.length]? = some redisCmd ∧ Admissible redisCmd reply := by
  obtain ⟨redisCmd, hredisCmd, hadmissible⟩ := h
  obtain ⟨hopen, written, buffered, rfl, hwritten, -⟩ := hs
  have hnext : (decodeCommands p.subscriber.client.client.written).bind (·[p.answers.length]?) =
      some redisCmd := hredisCmd
  rw [hwritten, decodeCommands_encodeCommands, Option.bind_some] at hnext
  obtain ⟨hlt, -⟩ := List.getElem?_eq_some_iff.mp hnext
  exact ⟨redisCmd, (List.getElem?_append_left hlt).trans hnext, hadmissible⟩

theorem before_start {t : Session} (hopen : t.client.client.connected = true)
    (hwritten : t.client.client.written = []) (hbuffer : t.client.buffer = []) :
    Before (start t : Pipeline κ) where
  auth := rfl
  answers := fun _ h => absurd h List.not_mem_nil
  published := fun _ h => absurd h List.not_mem_nil
  sends := ⟨[], ⟨hopen, [], [], rfl, hwritten, hbuffer⟩, Nat.le_refl 0⟩

/-- What a quiet step keeps before a call of `auth`. -/
theorem Before.step {p : Pipeline κ} (h : Before p) {e : Event κ} (he : e.isAuth = false)
    (henabled : machine.enabled p e) : Before (machine.step p e) := by
  obtain ⟨commands, hs, hle⟩ := h.sends
  have hsends {s : Subscriber κ} (hquiet : Quiet p.subscriber s) {n : Nat}
      (hn : n ≤ commands.length) : ∃ commands, Sends commands s ∧ n ≤ commands.length := by
    obtain ⟨more, hmore⟩ := hquiet.sends commands hs
    refine ⟨commands ++ more, hmore, ?_⟩
    rw [List.length_append]
    exact Nat.le_add_right_of_le hn
  cases e with
  | auth password callback => cases he
  | act a =>
    have hquiet : Quiet p.subscriber (a.run p.subscriber) := .act a _
    exact ⟨hquiet.auth.trans h.auth, h.answers, h.published, hsends hquiet hle⟩
  | answer reply user =>
    have hquiet : Quiet p.subscriber (receive reply user p.subscriber) :=
      .receive_unheard h.auth reply user
    obtain ⟨redisCmd, hredisCmd, -⟩ := exists_unanswered hs henabled
    obtain ⟨hlt, -⟩ := List.getElem?_eq_some_iff.mp hredisCmd
    refine ⟨hquiet.auth.trans h.auth, h.answers.concat (hquiet.calls reply), h.published,
      hsends hquiet ?_⟩
    show (p.answers ++ [_]).length ≤ commands.length
    rw [List.length_append]
    exact hlt
  | publish reply user =>
    have hquiet : Quiet p.subscriber (receive reply user p.subscriber) :=
      .receive_unheard h.auth reply user
    exact ⟨hquiet.auth.trans h.auth, h.answers, h.published.concat (hquiet.calls reply),
      hsends hquiet hle⟩

/-- A call of `auth`. -/
theorem Before.auth_step {p : Pipeline κ} (h : Before p) {sent : List Command}
    (hsent : p.sent = some sent) (password : Bytes) (callback : κ) :
    Awaiting sent password callback p.answers.length
      (machine.step p (.auth password callback)) := by
  obtain ⟨commands, hs, hle⟩ := h.sends
  have hcommands : commands = sent := by
    obtain ⟨-, written, buffered, rfl, hwritten, hbuffer⟩ := hs
    unfold Pipeline.sent at hsent
    rw [hwritten, hbuffer, ← encodeCommands_append, decodeCommands_encodeCommands] at hsent
    exact Option.some.inj hsent
  subst hcommands
  have harrays : ∀ i answer, p.answers.length ≤ i → p.answers[i]? = some answer →
      answer.reply.isArray = true := by
    intro i answer hi hanswer
    rw [List.getElem?_eq_none hi] at hanswer
    cases hanswer
  exact ⟨rfl, h.answers, h.published, ⟨[], hs.sendCommand _⟩, harrays, Nat.le_refl _, hle⟩

section Phases

variable {sent : List Command} {password : Bytes} {callback : κ} {first : Nat}

/-- A step that does not touch the callback sends no more than it says. -/
theorem Awaiting.sends_quiet {p : Pipeline κ} (h : Awaiting sent password callback first p)
    {s : Subscriber κ} (hquiet : Quiet p.subscriber s) :
    ∃ more, Sends (sent ++ [ascii "AUTH", password] :: more) s := by
  obtain ⟨more, hs⟩ := h.sends
  obtain ⟨more', hmore'⟩ := hquiet.sends _ hs
  refine ⟨more ++ more', ?_⟩
  rw [← List.cons_append, ← List.append_assoc]
  exact hmore'

/-- A reply that is an array answers an earlier command. -/
theorem Awaiting.answer_array {p : Pipeline κ} (h : Awaiting sent password callback first p)
    {reply : Reply} {user : List (Act κ)} (henabled : machine.enabled p (.answer reply user))
    (hreply : reply.isArray = true) :
    Awaiting sent password callback first (machine.step p (.answer reply user)) := by
  obtain ⟨more, hs⟩ := h.sends
  obtain ⟨redisCmd, hredisCmd, hadmissible⟩ := exists_unanswered hs henabled
  have hquiet : Quiet p.subscriber (receive reply user p.subscriber) := .receive hreply user _
  -- an array is not the reply to the `AUTH`
  have hlt : p.answers.length < sent.length := by
    rcases Nat.lt_or_eq_of_le h.le_sent with hlt | heq
    · exact hlt
    · rw [heq, List.getElem?_append_right (Nat.le_refl _), Nat.sub_self] at hredisCmd
      cases hredisCmd
      exact absurd (not_isArray hadmissible) (by rw [hreply]; exact Bool.noConfusion)
  refine ⟨hquiet.auth.trans h.auth, h.answers.concat (hquiet.calls reply), h.published,
    h.sends_quiet hquiet, ?_, ?_, ?_⟩
  · intro i answer hi hanswer
    rcases getElem?_concat_eq_some hanswer with hanswer | ⟨-, rfl⟩
    · exact h.arrays i answer hi hanswer
    · exact hreply
  · show first ≤ (p.answers ++ [_]).length
    rw [List.length_append]
    exact Nat.le_add_right_of_le h.first_le
  · show (p.answers ++ [_]).length ≤ sent.length
    rw [List.length_append]
    exact hlt

/-- The callback is the first one that a reply which is no array calls, and the calls that
it makes call no other one. -/
theorem Awaiting.calls_answer {p : Pipeline κ} (h : Awaiting sent password callback first p)
    {reply : Reply} (user : List (Act κ)) (hreply : reply.isArray = false) :
    (answerOf reply p.subscriber (receive reply user p.subscriber)).calls =
      [.auth callback reply] := by
  have hreceive := receive_some hreply user h.auth
  have hacting : Quiet { p.subscriber with invoked := p.subscriber.invoked ++ [.auth callback reply] }
      (after (acting user)
        { p.subscriber with invoked := p.subscriber.invoked ++ [.auth callback reply] }) :=
    .acting user _
  obtain ⟨calls, hcalls, hquiet⟩ := hacting.invoked
  show ((receive reply user p.subscriber).invoked.drop _).filter Heard = _
  rw [hreceive, hcalls, List.append_assoc, List.drop_left, List.singleton_append,
    List.filter_cons_of_pos rfl, List.filter_eq_nil_iff.mpr]
  intro call hcall
  rw [hquiet call hcall]
  exact Bool.false_ne_true

/-- The first reply that is no array is the one that was waited for. -/
theorem Awaiting.answered {p : Pipeline κ} (h : Awaiting sent password callback first p)
    {reply : Reply} (user : List (Act κ)) (hreply : reply.isArray = false) :
    Answered sent callback first p.answers.length (machine.step p (.answer reply user)) := by
  refine ⟨?_, ?_, h.published, ?_, ?_, h.first_le, h.le_sent⟩
  · show (receive reply user p.subscriber).authReplyCallback = none
    rw [receive_some hreply user h.auth]
  · intro i answer hanswer
    rcases getElem?_concat_eq_some hanswer with hanswer | ⟨rfl, rfl⟩
    · obtain ⟨hlt, -⟩ := List.getElem?_eq_some_iff.mp hanswer
      rw [if_neg (Nat.ne_of_lt hlt)]
      exact h.answers answer (List.mem_of_getElem? hanswer)
    · rw [if_pos rfl]
      exact h.calls_answer user hreply
  · intro i answer hfirst hi hanswer
    rcases getElem?_concat_eq_some hanswer with hanswer | ⟨rfl, -⟩
    · exact h.arrays i answer hfirst hanswer
    · exact absurd hi (Nat.lt_irrefl _)
  · exact ⟨_, List.getElem?_concat_length, hreply⟩

/-- While the callback waits, a reply to an earlier command is an array or calls it; the
reply to the `AUTH` calls it. -/
theorem Awaiting.step {p : Pipeline κ} (h : Awaiting sent password callback first p) {e : Event κ}
    (he : e.isAuth = false) (henabled : machine.enabled p e) :
    Awaiting sent password callback first (machine.step p e) ∨
      Answered sent callback first p.answers.length (machine.step p e) := by
  cases e with
  | auth password callback => cases he
  | act a =>
    have hquiet : Quiet p.subscriber (a.run p.subscriber) := .act a _
    exact .inl ⟨hquiet.auth.trans h.auth, h.answers, h.published, h.sends_quiet hquiet, h.arrays,
      h.first_le, h.le_sent⟩
  | publish reply user =>
    have hquiet : Quiet p.subscriber (receive reply user p.subscriber) := .receive henabled user _
    exact .inl ⟨hquiet.auth.trans h.auth, h.answers, h.published.concat (hquiet.calls reply),
      h.sends_quiet hquiet, h.arrays, h.first_le, h.le_sent⟩
  | answer reply user =>
    cases hreply : reply.isArray with
    | true => exact .inl (h.answer_array henabled hreply)
    | false => exact .inr (h.answered user hreply)

/-- Once the callback was called, nothing calls it again. -/
theorem Answered.step {number : Nat} {p : Pipeline κ} (h : Answered sent callback first number p)
    {e : Event κ} (he : e.isAuth = false) : Answered sent callback first number (machine.step p e) := by
  obtain ⟨other, hother, hnot⟩ := h.other
  obtain ⟨hlt, -⟩ := List.getElem?_eq_some_iff.mp hother
  cases e with
  | auth password callback => cases he
  | act a =>
    have hquiet : Quiet p.subscriber (a.run p.subscriber) := .act a _
    exact { h with auth := hquiet.auth.trans h.auth }
  | publish reply user =>
    have hquiet : Quiet p.subscriber (receive reply user p.subscriber) :=
      .receive_unheard h.auth reply user
    exact { h with
      auth := hquiet.auth.trans h.auth
      published := h.published.concat (hquiet.calls reply) }
  | answer reply user =>
    have hquiet : Quiet p.subscriber (receive reply user p.subscriber) :=
      .receive_unheard h.auth reply user
    refine { h with auth := hquiet.auth.trans h.auth, answers := ?_, arrays := ?_, other := ?_ }
    · intro i answer hanswer
      rcases getElem?_concat_eq_some hanswer with hanswer | ⟨rfl, rfl⟩
      · exact h.answers i answer hanswer
      · rw [if_neg (Nat.ne_of_gt hlt)]
        exact hquiet.calls reply
    · intro i answer hfirst hi hanswer
      rcases getElem?_concat_eq_some hanswer with hanswer | ⟨rfl, -⟩
      · exact h.arrays i answer hfirst hi hanswer
      · exact absurd hlt (Nat.lt_asymm hi)
    · exact ⟨other, (List.getElem?_append_left hlt).trans hother, hnot⟩

/-- After a call of `auth`, the callback waits or was called. -/
def Called (sent : List Command) (password : Bytes) (callback : κ) (first : Nat) (p : Pipeline κ) :
    Prop :=
  Awaiting sent password callback first p ∨ ∃ number, Answered sent callback first number p

theorem Called.step {p : Pipeline κ} (h : Called sent password callback first p) {e : Event κ}
    (he : e.isAuth = false) (henabled : machine.enabled p e) :
    Called sent password callback first (machine.step p e) := by
  rcases h with h | ⟨number, h⟩
  · exact (h.step he henabled).imp id fun h => ⟨_, h⟩
  · exact .inr ⟨number, h.step he⟩

end Phases

/-! ## Runs -/

/-- One call of `auth` on an open connection, with any calls before and after it: once the
server has answered the `AUTH`, which was the command after those `sent`, the callback was
called once, by this reply and with this reply, if and only if all replies that came after
the call of `auth` and before this one are arrays. -/
theorem auth_answered_iff {t : Session} (hopen : t.client.client.connected = true)
    (hwritten : t.client.client.written = []) (hbuffer : t.client.buffer = [])
    (before later : List (Event κ)) (password : Bytes) (callback : κ)
    (hbefore : ∀ e ∈ before, e.isAuth = false) (hlater : ∀ e ∈ later, e.isAuth = false)
    (hpossible : machine.Possible (start t) (before ++ .auth password callback :: later))
    (sent : List Command) (hsent : (machine.run (start t) before).sent = some sent)
    (hanswered : sent.length <
      (machine.run (start t) (before ++ .auth password callback :: later)).answers.length) :
    AuthAnswered (machine.run (start t) (before ++ .auth password callback :: later)) callback
        sent.length ↔
      ∀ i answer, (machine.run (start t) before).answers.length ≤ i → i < sent.length →
        (machine.run (start t) (before ++ .auth password callback :: later)).answers[i]? =
          some answer → answer.reply.isArray = true := by
  obtain ⟨hpossible, hauth⟩ := Machine.possible_append.mp hpossible
  have hrest : machine.Possible _ later := hauth.2
  have hcalm : Before (machine.run (start t : Pipeline κ) before) :=
    hpossible.invariant_of_kind (fun _ _ h he henabled => Before.step h he henabled) hbefore
      (before_start hopen hwritten hbuffer)
  rw [Machine.run_append] at hanswered ⊢
  have hcalled : Called sent password callback (machine.run (start t) before).answers.length
      (machine.run (machine.step (machine.run (start t) before) (.auth password callback)) later) :=
    hrest.invariant_of_kind (fun _ _ h he henabled => Called.step h he henabled) hlater
      (.inl (hcalm.auth_step hsent password callback))
  generalize (machine.run (start t) before).answers.length = first at hcalled ⊢
  change sent.length < (machine.run (machine.step _ _) later).answers.length at hanswered
  change AuthAnswered (machine.run (machine.step _ _) later) _ _ ↔ ∀ i answer, _ → _ →
    (machine.run (machine.step _ _) later).answers[i]? = _ → _
  generalize machine.run (machine.step _ _) later = p at hcalled hanswered ⊢
  rcases hcalled with hawaiting | ⟨number, h⟩
  · exact absurd hawaiting.le_sent (Nat.not_le_of_lt hanswered)
  obtain ⟨other, hother, hnot⟩ := h.other
  constructor
  · intro hauth i answer hfirst hi hanswer
    have hcalls := (h.answers number other hother).symm.trans (hauth.1 number other hother)
    rw [if_pos rfl] at hcalls
    -- only one reply called the callback
    have hnumber : number = sent.length := by
      by_contra hne
      rw [if_neg hne] at hcalls
      cases hcalls
    exact h.arrays i answer hfirst (hnumber ▸ hi) hanswer
  · intro harrays
    have hnumber : number = sent.length := by
      refine Nat.le_antisymm h.le_sent (Nat.le_of_not_lt fun hlt => ?_)
      exact absurd (harrays number other h.first_le hlt hother)
        (by rw [hnot]; exact Bool.false_ne_true)
    subst hnumber
    exact ⟨h.answers, h.published⟩

/-- A session that is connected. -/
def connectedSession : Session :=
  { client := { client := { connected := true } } }

/-- The `AUTH` follows a `SUBSCRIBE`, which is acknowledged before it is answered. -/
theorem auth_answered_iff_subscribed :
    let before : List (Event Nat) := [.act (.call (.subscribe .channels [97] 1 none))]
    let later : List (Event Nat) :=
      [.act .commit,
        .answer (.ofRows [.ofString (ascii "subscribe") .bulkString, .ofString [97] .bulkString,
          .ofInteger 1]) [],
        .answer (.ofString (ascii "OK") .simpleString) [.call (.subscribe .channels [98] 2 none)]]
    let p := machine.run (start connectedSession) (before ++ .auth [112] 7 :: later)
    AuthAnswered p 7 1 ↔ ∀ (i : Nat) (answer : Answer Nat), 0 ≤ i → i < 1 →
      p.answers[i]? = some answer → answer.reply.isArray = true :=
  auth_answered_iff rfl rfl rfl _ _ [112] 7 (by decide) (by decide) (by decide)
    [[ascii "SUBSCRIBE", [97]]] rfl (by decide)

/-- A subscriber subscribes, authenticates and commits; the server asks for the
authentication first, and then takes it. -/
theorem not_auth_answered :
    ¬ ∀ (before later : List (Event Nat)) (password : Bytes) (callback : Nat) (sent : List Command),
      (∀ e ∈ before, e.isAuth = false) → (∀ e ∈ later, e.isAuth = false) →
      machine.Possible (start connectedSession) (before ++ .auth password callback :: later) →
      (machine.run (start connectedSession) before).sent = some sent →
      let p := machine.run (start connectedSession) (before ++ .auth password callback :: later)
      sent.length < p.answers.length → AuthAnswered p callback sent.length := by
  intro h
  have hanswered := h [.act (.call (.subscribe .channels [97] 1 none))]
    [.act .commit, .answer (.ofString (ascii "NOAUTH Authentication required.") .error) [],
      .answer (.ofString (ascii "OK") .simpleString) []] [112] 7 [[ascii "SUBSCRIBE", [97]]]
    (by decide) (by decide) (by decide) rfl (by decide)
  have hfirst := hanswered.1 0 _ rfl
  cases hfirst

end Pipeline

end Subscriber

end CppRedis
