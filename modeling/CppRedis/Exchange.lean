import CppRedis.Alignment
import CppRedis.Runs
import CppRedis.Lib.Service
import Mathlib.Data.List.Forall2

/-!
# A client and a server that carries its commands out

The server at the other end reads the bytes of the client as they arrive, carries out each
command once it has all of its bytes, and writes its answer to the connection. Both
directions are cut anywhere, callbacks send and commit more commands, connections are
opened, closed and lost; what a lost connection has brought to the server is carried out
all the same, and its answers go nowhere.

* `Inlet`: the bytes of a connection on their way to the server. `Inlet.Holds.next` says that
  what it takes for a command is one.
* `Ages`: what no step of a client takes back. `front_prefix` is what follows for the entries
  that a connection is no longer concerned with.
* `exchange_executed_once`: in every state of every run, the server has carried out each command
  at most as often as it was issued, and the replies that were delivered are those that it
  gave, each to its command, in the order in which it gave them.
* `exchange_quiet`: when nothing is on its way any more, the queue is empty.
-/

namespace CppRedis

open Text Procedure

/-! ## Commands that arrive in parts -/

theorem readHeader_append {id : Byte} {s rest : Bytes} {n : Nat} (h : readHeader id s = some (n, rest))
    (t : Bytes) : readHeader id (s ++ t) = some (n, rest ++ t) := by
  cases s with
  | nil => cases h
  | cons c s =>
    rw [readHeader] at h
    rw [List.cons_append, readHeader]
    by_cases hc : c = id
    · rw [if_pos hc] at h ⊢
      obtain ⟨k, hk, hnumber⟩ := Option.bind_eq_some_iff.mp h
      obtain ⟨v, hv, hrest⟩ := Option.map_eq_some_iff.mp hnumber
      have hlength := findCrlf_length hk
      rw [findCrlf_append t hk, Option.bind_some, List.take_append_of_le_length (by omega), hv,
        Option.map_some, List.drop_append_of_le_length hlength]
      cases hrest
      rfl
    · rw [if_neg hc] at h
      cases h

theorem readPart_append {s part rest : Bytes} (h : readPart s = some (part, rest)) (t : Bytes) :
    readPart (s ++ t) = some (part, rest ++ t) := by
  unfold readPart at h ⊢
  obtain ⟨⟨n, s'⟩, hhead, hpart⟩ := Option.bind_eq_some_iff.mp h
  rw [readHeader_append hhead t, Option.bind_some]
  dsimp only at hpart ⊢
  split at hpart
  · next hall =>
    obtain ⟨hlength, hend⟩ := hall
    have htwo : 2 ≤ (s'.drop n).length := by
      rw [List.length_drop]
      omega
    have hend' : ((s' ++ t).drop n).take 2 = crlf := by
      rw [List.drop_append_of_le_length (by omega), List.take_append_of_le_length htwo, hend]
    have hlength' : n + 2 ≤ (s' ++ t).length := by
      rw [List.length_append]
      omega
    rw [if_pos ⟨hlength', hend'⟩, List.take_append_of_le_length (by omega),
      List.drop_append_of_le_length hlength]
    cases hpart
    rfl
  · cases hpart

theorem readParts_append {n : Nat} {s rest : Bytes} {cmd : Command}
    (h : readParts n s = some (cmd, rest)) (t : Bytes) :
    readParts n (s ++ t) = some (cmd, rest ++ t) := by
  induction n generalizing s cmd with
  | zero =>
    cases h
    rfl
  | succ n ih =>
    rw [readParts] at h ⊢
    obtain ⟨⟨part, s'⟩, hpart, hparts⟩ := Option.bind_eq_some_iff.mp h
    obtain ⟨⟨parts, s''⟩, hrest, hcmd⟩ := Option.map_eq_some_iff.mp hparts
    cases hcmd
    rw [readPart_append hpart t, Option.bind_some]
    dsimp only
    rw [ih hrest, Option.map_some]

/-- A command that is there in whole is read whatever follows it. -/
theorem readCommand_append {s rest : Bytes} {cmd : Command} (h : readCommand s = some (cmd, rest))
    (t : Bytes) : readCommand (s ++ t) = some (cmd, rest ++ t) := by
  unfold readCommand at h ⊢
  obtain ⟨⟨n, s'⟩, hhead, hparts⟩ := Option.bind_eq_some_iff.mp h
  rw [readHeader_append hhead t, Option.bind_some]
  exact readParts_append hparts t

theorem encodeCommands_injective {cmds cmds' : List Command}
    (h : encodeCommands cmds = encodeCommands cmds') : cmds = cmds' := by
  have hdecode := decodeCommands_encodeCommands cmds
  rw [h, decodeCommands_encodeCommands] at hdecode
  exact (Option.some.inj hdecode).symm

/-- The bytes of a connection that go to the server: those still under way, and those that it
has read and not carried out. -/
structure Inlet where
  unread : Bytes := []
  inbox : Bytes := []
deriving DecidableEq, Repr

namespace Inlet

/-- Some bytes arrive. -/
def read (size : Nat) (i : Inlet) : Inlet where
  unread := i.unread.drop size
  inbox := i.inbox ++ i.unread.take size

/-- More bytes are written to the connection. -/
def write (data : Bytes) (i : Inlet) : Inlet :=
  { i with unread := i.unread ++ data }

/-- The next command, once all of its bytes have arrived. -/
def next (i : Inlet) : Option (Command × Inlet) :=
  (readCommand i.inbox).map fun (cmd, rest) => (cmd, { i with inbox := rest })

/-- The bytes are those of some commands. -/
def Holds (i : Inlet) (cmds : List Command) : Prop :=
  i.inbox ++ i.unread = encodeCommands cmds

variable {i i' : Inlet} {cmd : Command} {cmds : List Command}

theorem Holds.empty : Holds {} [] :=
  rfl

theorem Holds.read (h : i.Holds cmds) (size : Nat) : (i.read size).Holds cmds := by
  unfold Holds Inlet.read
  dsimp only
  rw [List.append_assoc, List.take_append_drop]
  exact h

theorem Holds.write (h : i.Holds cmds) (more : List Command) :
    (i.write (encodeCommands more)).Holds (cmds ++ more) := by
  unfold Holds Inlet.write
  dsimp only
  rw [← List.append_assoc, h, encodeCommands_append]

/-- The next command is the first one, and the others are left. -/
theorem Holds.next (h : i.Holds cmds) (hnext : i.next = some (cmd, i')) :
    ∃ rest, cmds = cmd :: rest ∧ i'.Holds rest := by
  obtain ⟨⟨cmd', rest'⟩, hread, hi⟩ := Option.map_eq_some_iff.mp hnext
  obtain ⟨rfl, rfl⟩ := Prod.mk.inj hi
  have hall := readCommand_append hread i.unread
  rw [h] at hall
  cases cmds with
  | nil => cases hall
  | cons first rest =>
    rw [encodeCommands_cons, readCommand_buildCommand] at hall
    obtain ⟨rfl, hrest⟩ := Prod.mk.inj (Option.some.inj hall)
    exact ⟨rest, rfl, hrest.symm⟩

/-- An inlet that is read to the end and has no next command has none left. -/
theorem Holds.done (h : i.Holds cmds) (hunread : i.unread = []) (hnext : i.next = none) :
    cmds = [] := by
  cases cmds with
  | nil => rfl
  | cons first rest =>
    have hread := readCommand_buildCommand first (encodeCommands rest)
    rw [← encodeCommands_cons, ← h, hunread, List.append_nil] at hread
    rw [Inlet.next, hread] at hnext
    cases hnext

end Inlet

namespace Client

variable {κ : Type}

/-! ## What a client does not take back -/

/-- No entry that was pushed is forgotten, and as many have been handled and have failed as
before, or more. -/
structure Ages (c c' : Client κ) : Prop where
  pushed : c.pushed <+: c'.pushed
  handled : c.handled.length ≤ c'.handled.length
  failing : c.failureThreads.flatten.length ≤ c'.failureThreads.flatten.length
  accounted : Accounted c → Accounted c'

namespace Ages

variable {c c₁ c₂ c₃ : Client κ}

theorem refl (c : Client κ) : Ages c c :=
  ⟨List.prefix_refl _, Nat.le_refl _, Nat.le_refl _, id⟩

theorem trans (h : Ages c₁ c₂) (h' : Ages c₂ c₃) : Ages c₁ c₃ :=
  ⟨h.pushed.trans h'.pushed, h.handled.trans h'.handled, h.failing.trans h'.failing,
    h'.accounted ∘ h.accounted⟩

/-- A change of the session. -/
theorem session (s : Session) (c : Client κ) : Ages c (Client.session.set s c) :=
  ⟨List.prefix_refl _, Nat.le_refl _, Nat.le_refl _, fun h => h.move (.session s)⟩

theorem push (request : CommandRequest κ) (c : Client κ) : Ages c (c.push request) :=
  ⟨List.prefix_append _ _, Nat.le_refl _, Nat.le_refl _, fun h => h.move (.push request)⟩

theorem unprotectedAuth (password : Bytes) (callback : Option (Callback κ)) (c : Client κ) :
    Ages c (c.unprotectedAuth password callback) :=
  (session { c.toSession with password := password } c).trans (push _ _)

theorem unprotectedSelect (index : Int) (callback : Option (Callback κ)) (c : Client κ) :
    Ages c (c.unprotectedSelect index callback) :=
  have hindex : Ages c { c with databaseIndex := index } :=
    ⟨List.prefix_refl _, Nat.le_refl _, Nat.le_refl _, fun h => h.move (.index index)⟩
  hindex.trans (push _ _)

theorem clearCallbacks (c : Client κ) : Ages c c.clearCallbacks := by
  refine ⟨?_, ?_, ?_, fun h => h.move .clearCallbacks⟩ <;> unfold Client.clearCallbacks <;> split
  · exact List.prefix_refl _
  · exact List.prefix_refl _
  · exact Nat.le_refl _
  · exact Nat.le_refl _
  · exact Nat.le_refl _
  · rw [List.flatten_append, List.length_append]
    exact Nat.le_add_right _ _

theorem tryCommit (c : Client κ) : Ages c (after tryCommit c) := by
  cases hc : c.client.client.connected with
  | true =>
    rw [after_ok (tryCommit_connected hc)]
    exact session (Session.connection.update RedisConnection.flush c.toSession) c
  | false =>
    rw [after_error (tryCommit_disconnected hc)]
    exact (session (Session.connection.set c.client.discard c.toSession) c).trans
      (clearCallbacks _)

theorem answerFront (reply : Reply) (c : Client κ) : Ages c (c.answerFront reply) :=
  ⟨List.prefix_refl _, List.length_append ▸ Nat.le_add_right _ _, Nat.le_refl _,
    fun h => h.move (.answerFront reply)⟩

end Ages

/-- The steps of a client whose users' code takes nothing back. -/
theorem Step.ages {c c' : Client κ} (h : Step Ages c c') : Ages c c' := by
  cases h with
  | user h => exact h
  | session h => exact .session _ c
  | inner h => exact .session _ c
  | reAuth =>
    unfold Client.reAuth
    split
    · exact .refl c
    · exact .unprotectedAuth _ _ c
  | reSelect =>
    unfold Client.reSelect
    split
    · exact .refl c
    · exact .unprotectedSelect _ _ c
  | resendFailedCommands =>
    have hmove : Move c c.resendFailedCommands := .resendFailedCommands
    rw [resendFailedCommands_eq] at hmove ⊢
    exact ⟨List.prefix_refl _, Nat.le_refl _, Nat.le_refl _, fun h => h.move hmove⟩
  | tryCommit => exact .tryCommit c
  | clearCallbacks => exact .clearCallbacks c
  | answerFront reply => exact .answerFront reply c
  | countDown => exact ⟨List.prefix_refl _, Nat.le_refl _, Nat.le_refl _, fun h => h.move .countDown⟩

theorem steps_ages {c c' : Client κ} (h : Relation.ReflTransGen (Step Ages) c c') : Ages c c' := by
  induction h with
  | refl => exact .refl c
  | tail _ hstep ih => exact ih.trans hstep.ages

theorem PipelineCall.ages (call : PipelineCall κ) (c : Client κ) : Ages c (call.run c) := by
  cases call with
  | send redisCmd callback => exact .push _ c
  | auth password callback => exact .unprotectedAuth _ _ c
  | select index callback => exact .unprotectedSelect _ _ c
  | commit =>
    show Ages c (after Client.commit c)
    unfold Client.commit
    rw [after_get_bind]
    split
    · exact .tryCommit c
    · exact .refl c

theorem runCalls_ages (calls : List (PipelineCall κ)) (c : Client κ) : Ages c (c.runCalls calls) := by
  induction calls generalizing c with
  | nil => exact .refl c
  | cons call calls ih => exact (call.ages c).trans (ih _)

theorem calling_ages (calls : List (PipelineCall κ)) : Follows Ages (calling calls) :=
  .modify (runCalls_ages calls)

theorem Reticent.ages {notify : Notification → EStateM Fault (Client κ) Unit} (hn : Reticent notify)
    (n : Notification) : Follows Ages (notify n) := by
  intro c
  rw [hn.after_eq]

/-- A failure thread handles an entry that has failed. -/
theorem Failed.accounted {c c' : Client κ} (h : Failed c c') :
    c'.pushed = c.pushed ∧ (Accounted c → Accounted c') ∧
      c.handled.length + c.failureThreads.flatten.length =
        c'.handled.length + c'.failureThreads.flatten.length := by
  obtain ⟨i, request, rest, hi⟩ := h
  refine ⟨rfl, fun h => h.failFront hi, ?_⟩
  have hlength := (flatten_set_perm hi).length_eq
  show _ = (c.handled ++ [(request, networkFailure)]).length + (c.failureThreads.set i rest).flatten.length
  rw [List.length_append, hlength, List.length_cons, List.length_singleton]
  omega

namespace World

variable {notify : Notification → EStateM Fault (Client κ) Unit} {w : World κ}

/-- A chunk, with the calls that its callbacks make. -/
theorem read_ages (hn : Reticent notify) (w : World κ) (size : Nat)
    (callbacks : List (List (PipelineCall κ))) : Ages w.client (w.read notify size callbacks).client := by
  have hread : Ages w.client (connection.update RedisConnection.completeRead w.client) :=
    .session (Session.connection.update RedisConnection.completeRead w.client.toSession) w.client
  have hnone : Follows Ages (pure () : EStateM Fault (Client κ) Unit) := .pure _
  refine hread.trans (steps_ages ?_)
  refine receive_steps hn.ages (fun p hp => ?_) hnone _ [] _
  obtain ⟨calls, -, rfl⟩ := List.mem_map.mp hp
  exact calling_ages calls

/-- Whatever happens, no entry is forgotten: those that were handled or have failed stay so. -/
theorem step_settled (hn : Reticent notify) (w : World κ) (e : Event κ) :
    w.client.pushed <+: (w.step notify e).client.pushed ∧
      (Accounted w.client → Accounted (w.step notify e).client) ∧
      w.client.handled.length + w.client.failureThreads.flatten.length ≤
        (w.step notify e).client.handled.length +
          (w.step notify e).client.failureThreads.flatten.length := by
  have hsettled {c c' : Client κ} (h : Ages c c') : c.pushed <+: c'.pushed ∧
      (Accounted c → Accounted c') ∧ c.handled.length + c.failureThreads.flatten.length ≤
        c'.handled.length + c'.failureThreads.flatten.length :=
    ⟨h.pushed, h.accounted, Nat.add_le_add h.handled h.failing⟩
  have hcalls : (owner notify).Calls (Step Ages) := (within_steps hn.ages).toCalls
  have hnone : Follows Ages (pure () : EStateM Fault (Client κ) Unit) := .pure _
  cases e with
  | call call => exact hsettled (call.ages w.client)
  | connect p accepted => exact hsettled (steps_ages (hcalls.connect_follows p accepted w.client))
  | connectByName name p lookup accepted =>
    exact hsettled (steps_ages (hcalls.connectByName_follows _ name p lookup accepted w.client))
  | disconnect =>
    exact hsettled ((Ages.session (Session.connection.set w.client.client.disconnect
      w.client.toSession) w.client).trans (.clearCallbacks _))
  | answer value => exact hsettled (.refl w.client)
  | chunk size callbacks => exact hsettled (read_ages hn w size callbacks)
  | drop =>
    exact hsettled (steps_ages (drop_steps hn.ages hnone hnone [] w.client))
  | failure i calls =>
    rcases failureStep_steps i (calling_ages calls) w.client with hsame | ⟨c₁, hfailed, hsteps⟩
    · refine hsettled ?_
      show Ages w.client (after (failureStep i (calling calls)) w.client)
      rw [hsame]
      exact .refl _
    · obtain ⟨hpushed, haccounted, hlength⟩ := hfailed.accounted
      obtain ⟨hpushed', haccounted', hlength'⟩ := hsettled (steps_ages hsteps)
      exact ⟨hpushed ▸ hpushed', haccounted' ∘ haccounted, hlength.trans_le hlength'⟩

/-- The entries that neither the connection nor the buffer is concerned with any more. -/
def front (w : World κ) : List (CommandRequest κ) :=
  w.client.pushed.take
    (w.client.pushed.length - (w.exchanged.length + w.client.commands.length))

theorem Inv.pushed_eq (h : w.Inv) :
    w.client.pushed = w.front ++ (w.exchanged.map Prod.fst ++ w.client.commands) := by
  have hissued : w.exchanged.map Prod.fst ++ w.client.commands <:+ w.client.pushed := by
    rcases h.link with hclosed | ⟨base, sent, held, hopened⟩
    · rw [hclosed.exchanged]
      exact hclosed.waiting.issued
    · exact ⟨base, hopened.queued.issued.symm⟩
  obtain ⟨first, hfirst⟩ := hissued
  have hlength := congrArg List.length hfirst
  rw [List.length_append, List.length_append, List.length_map] at hlength
  have hfront : w.front = first := by
    unfold front
    rw [← hlength, Nat.add_sub_cancel, ← hfirst]
    exact List.take_left
  rw [hfront, hfirst]

theorem Inv.front_length (h : w.Inv) (haccounted : Accounted w.client) :
    w.front.length + w.exchanged.length =
      w.client.handled.length + w.client.failureThreads.flatten.length := by
  have hpushed := congrArg List.length h.pushed_eq
  have hentries := haccounted.entries.length_eq
  unfold accountedFor at hentries
  simp only [List.length_append, List.length_map] at hpushed hentries
  omega

/-- These entries stay in front of the others. -/
theorem front_prefix (hn : Reticent notify) (h : w.Inv) (haccounted : Accounted w.client)
    {e : Event κ} (he : w.Enabled e) : w.front <+: (w.step notify e).front := by
  have h' := h.step hn e he
  obtain ⟨hpushed, haccounted', hsettled⟩ := step_settled hn w e
  have hlength := h.front_length haccounted
  have hlength' := h'.front_length (haccounted' haccounted)
  refine List.prefix_of_prefix_length_le ((List.take_prefix _ _).trans hpushed)
    (List.take_prefix _ _) ?_
  cases e with
  | chunk size callbacks =>
    have hages := read_ages hn w size callbacks
    have hhandled := hages.handled
    have hfailing := hages.failing
    have hexchanged : (w.step notify (.chunk size callbacks)).exchanged.length =
        w.exchanged.length + ((w.step notify (.chunk size callbacks)).client.handled.length -
          w.client.handled.length) := by
      show (w.exchanged ++ List.drop _ _).length = _
      rw [List.length_append, List.length_drop]
      rfl
    change w.client.handled.length ≤
      (w.step notify (.chunk size callbacks)).client.handled.length at hhandled
    change _ ≤ (w.step notify (.chunk size callbacks)).client.failureThreads.flatten.length at hfailing
    omega
  | disconnect =>
    have hexchanged : (w.step notify .disconnect).exchanged.length = 0 := rfl
    omega
  | drop =>
    have hexchanged : (w.step notify .drop).exchanged.length = 0 := rfl
    omega
  | _ =>
    change _ + w.exchanged.length = _ at hlength'
    omega

/-! ## What was written -/

/-- The commands that were written to the connection, if it is open. -/
def sent (w : World κ) : List Command :=
  if w.client.isConnected then (decodeCommands w.client.client.client.written).getD [] else []

/-- Those that the server has carried out. -/
def answered (w : World κ) : List Command :=
  w.sent.take w.answers.length

/-- Those that it has not. -/
def unanswered (w : World κ) : List Command :=
  w.sent.drop w.answers.length

theorem Opened.sent_eq {base : List (CommandRequest κ)} {cmds held : List Command}
    (h : w.Opened base cmds held) : w.sent = cmds := by
  have hc : w.client.isConnected = true := h.queued.connected
  unfold sent
  rw [if_pos hc, h.queued.written, decodeCommands_encodeCommands]
  rfl

/-- Where the connection is open, `sent` is what was written to it. -/
theorem Inv.opened (h : w.Inv) (hc : w.client.isConnected = true) :
    ∃ base held, w.Opened base w.sent held := by
  rcases h.link with hclosed | ⟨base, cmds, held, hopened⟩
  · exact absurd (hc.symm.trans hclosed.waiting.closed) Bool.noConfusion
  · exact ⟨base, held, hopened.sent_eq ▸ hopened⟩

theorem Inv.closed (h : w.Inv) (hc : w.client.isConnected = false) : w.Closed := by
  rcases h.link with hclosed | ⟨base, cmds, held, hopened⟩
  · exact hclosed
  · exact absurd (hopened.queued.connected.symm.trans hc) Bool.noConfusion

theorem sent_closed (hc : w.client.isConnected = false) : w.sent = [] := by
  unfold sent
  rw [if_neg (Bool.not_eq_true _ ▸ hc)]

/-- The connection is closed or lost. -/
def Event.closes : Event κ → Bool
  | .disconnect => true
  | .drop => true
  | _ => false

/-- The connection is still open, and some more commands were written to it or none. -/
structure Continues (w : World κ) (c' : Client κ) : Prop where
  connected : c'.isConnected = true
  written : ∃ more, c'.client.client.written = encodeCommands (w.sent ++ more)
  settled : w.client.client.builder.Settled → c'.client.builder.Settled

/-- Only closing or losing it ends an open connection. -/
theorem step_open (hn : Reticent notify) (h : w.Inv) {e : Event κ} (he : w.Enabled e)
    (hc : w.client.isConnected = true) (hcloses : e.closes = false) :
    w.Continues (w.step notify e).client := by
  obtain ⟨base, held, hopened⟩ := h.opened hc
  have hqueued := hopened.queued
  have hsame {c' : Client κ} (hconnected : c'.client.client.connected = w.client.client.client.connected)
      (hwritten : c'.client.client.written = w.client.client.client.written)
      (hbuilder : c'.client.builder = w.client.client.builder) : w.Continues c' :=
    ⟨hconnected.trans hc, ⟨[], by rw [hwritten, hqueued.written, List.append_nil]⟩,
      fun hsettled => hbuilder ▸ hsettled⟩
  have hmore {c' : Client κ} {more held' : List Command} {done : List (CommandRequest κ)}
      (hnext : Queued c' base (w.sent ++ more) held' done)
      (hbuilder : c'.client.builder = w.client.client.builder) : w.Continues c' :=
    ⟨hnext.connected, ⟨more, hnext.written⟩, fun hsettled => hbuilder ▸ hsettled⟩
  have hdialled {c' : Client κ} (hd : Dialled w.client c') : w.Continues c' := by
    rcases hd.link with hlink | ⟨endpoint, hlink⟩ | ⟨hclosed, -⟩
    · exact hsame (by rw [hlink]) (by rw [hlink]) (by rw [hlink])
    · exact hsame (by rw [hlink]; rfl) (by rw [hlink]; rfl) (by rw [hlink]; rfl)
    · exact absurd (hc.symm.trans hclosed) Bool.noConfusion
  cases e with
  | call call =>
    obtain ⟨more, held', hcall⟩ := hqueued.call h.reconnecting call
    exact hmore hcall (call.calm h.reconnecting).1.builder
  | connect p accepted => exact hdialled (connect_dialled hn p accepted w.client)
  | connectByName name p lookup accepted =>
    exact hdialled (connectByName_dialled hn name p lookup accepted w.client)
  | answer value => exact hsame rfl rfl rfl
  | chunk size callbacks =>
    obtain ⟨b, replies, hfeed, hle, -, hlater⟩ := hopened.pending.read hopened.exchanged size
    have hread : Same w.client (connection.update RedisConnection.completeRead w.client) :=
      ⟨⟨rfl, rfl, rfl, rfl, rfl⟩, rfl, rfl, rfl, rfl⟩
    have hdone : (w.exchanged.map Prod.fst).length + replies.length ≤ w.sent.length := by
      rw [List.length_map]
      exact hle.trans hopened.answers
    obtain ⟨entries, more, held', -, -, -, hnext, hcalm⟩ := receive_chunk notify callbacks
      (hread.queued hqueued) h.reconnecting hopened.replyCallback hlater.none_available hfeed hdone
    exact ⟨hnext.connected, ⟨more, hnext.written⟩, fun _ => hcalm.builder ▸ ReplyBuilder.settled_of_prepend hfeed⟩
  | failure i calls =>
    obtain ⟨c₁, calls', hfirst, hlast⟩ := failureStep_calling i calls w.client
    have hr : c₁.reconnecting = false := hfirst.reconnecting.trans h.reconnecting
    obtain ⟨more, held', hcalls⟩ := (hfirst.queued hqueued).calls hr calls'
    refine hmore (hlast.queued hcalls) (hlast.builder.trans ?_)
    exact (runCalls_calm hr calls').1.builder.trans hfirst.builder
  | disconnect => cases hcloses
  | drop => cases hcloses

/-- A connection that is closed or lost leaves nothing in the queue. -/
theorem step_closes (hn : Reticent notify) (h : w.Inv) {e : Event κ} (he : w.Enabled e)
    (hc : w.client.isConnected = true) (hcloses : e.closes = true) :
    (w.step notify e).client.isConnected = false ∧ (w.step notify e).client.commands = [] := by
  obtain ⟨base, held, hopened⟩ := h.opened hc
  cases e with
  | disconnect =>
    obtain ⟨hcalm, hcommands, -⟩ := clearCallbacks_calm
      { w.client with client := w.client.client.disconnect }
    exact ⟨hcalm.connected, hcommands⟩
  | drop =>
    obtain ⟨-, hcommands, hclient⟩ := drop_reticent hn h.reconnecting he.2 hopened.disconnectionHandler
    refine ⟨?_, hcommands⟩
    show (after (Client.drop notify id id []) w.client).client.client.connected = false
    rw [hclient]
    rfl
  | _ => cases hcloses

/-- Nothing was written to a connection that has just been opened, and nothing was read. -/
theorem step_opens (hn : Reticent notify) (h : w.Inv) {e : Event κ} (he : w.Enabled e)
    (hc : w.client.isConnected = false) (hc' : (w.step notify e).client.isConnected = true) :
    (w.step notify e).client.client.client.written = [] ∧
      (w.step notify e).client.client.builder = {} := by
  have hwaiting := (h.closed hc).waiting
  have hshut {c' : Client κ} (hclosed : c'.client.client.connected = false)
      (hopen : c'.isConnected = true) : c'.client.client.written = [] ∧ c'.client.builder = {} :=
    absurd (hopen.symm.trans hclosed) Bool.noConfusion
  have hdialled {c' : Client κ} (hd : Dialled w.client c') (hopen : c'.isConnected = true) :
      c'.client.client.written = [] ∧ c'.client.builder = {} := by
    rcases hd.link with hlink | ⟨endpoint, hlink⟩ | ⟨-, endpoint, hlink⟩
    · exact hshut (by rw [hlink]; exact hc) hopen
    · exact hshut (by rw [hlink]; exact hc) hopen
    · rw [hlink]
      exact ⟨rfl, (h.closed hc).builder⟩
  cases e with
  | call call => exact hshut (hwaiting.call h.reconnecting call).closed hc'
  | connect p accepted => exact hdialled (connect_dialled hn p accepted w.client) hc'
  | connectByName name p lookup accepted =>
    exact hdialled (connectByName_dialled hn name p lookup accepted w.client) hc'
  | disconnect =>
    obtain ⟨hcalm, -⟩ := clearCallbacks_calm { w.client with client := w.client.client.disconnect }
    exact hshut hcalm.connected hc'
  | failure i calls =>
    refine hshut ?_ hc'
    obtain ⟨c₁, calls', hfirst, hlast⟩ := failureStep_calling i calls w.client
    have hr : c₁.reconnecting = false := hfirst.reconnecting.trans h.reconnecting
    exact hlast.connected.trans ((hfirst.waiting hwaiting).calls hr calls').closed
  | answer value => exact absurd (he.1.symm.trans hc) Bool.noConfusion
  | chunk size callbacks => exact absurd (he.1.symm.trans hc) Bool.noConfusion
  | drop => exact absurd (he.1.symm.trans hc) Bool.noConfusion

end World

end Client

/-! ## The client and its server -/

/-- A server: what a command does to it and what it answers. Its answers can be encoded. -/
structure RedisServer (τ : Type) extends Service τ Command Value where
  wellFormed : ∀ t cmd, (serve t cmd).2.WellFormed

/-- A client with its connection, and what has come of it at the server: the bytes of this
connection and those of the connections before, and the commands carried out so far.
`delivered` are the entries that were handled with a reply on the connections before. -/
structure Exchange (κ : Type) where
  world : Client.World κ
  inlet : Inlet := {}
  lingering : List Inlet := []
  executed : List Command := []
  delivered : List (CommandRequest κ × Reply) := []

namespace Exchange

variable {κ τ : Type}

open Client (World Reticent)

/-- What happens: to the client, or to the bytes of its connection or of one before. -/
inductive Event (κ : Type)
  | client (e : World.Event κ)
  | read (size : Nat)
  | execute
  | readLate (i size : Nat)
  | executeLate (i : Nat)

/-- An answer is the server's and comes with the command that it carries out. -/
def Enabled (x : Exchange κ) : Event κ → Prop
  | .client e => (∀ value, e ≠ .answer value) ∧ x.world.Enabled e
  | .execute => x.world.client.isConnected = true
  | _ => True

/-- What the client has become, with the bytes that it has written. -/
def follow (x : Exchange κ) (w : World κ) : Exchange κ :=
  let written := w.client.client.client.written
  match x.world.client.isConnected, w.client.isConnected with
  | true, true =>
    { x with
      world := w
      inlet := x.inlet.write (written.drop x.world.client.client.client.written.length) }
  | false, true => { x with world := w, inlet := Inlet.write written {} }
  | true, false =>
    { x with
      world := w
      inlet := {}
      lingering := x.lingering ++ [x.inlet]
      delivered := x.delivered ++ x.world.exchanged }
  | false, false => { x with world := w }

variable (server : RedisServer τ) (notify : Notification → EStateM Fault (Client κ) Unit)

/-- The next command of the connection is carried out and answered. -/
def execute (x : Exchange κ) : Exchange κ :=
  match x.inlet.next with
  | none => x
  | some (cmd, inlet) =>
    { x with
      world := x.world.step notify (.answer (server.respond x.executed cmd))
      inlet := inlet
      executed := x.executed ++ [cmd] }

/-- That of a connection that is gone: its answer goes nowhere. -/
def executeLate (i : Nat) (x : Exchange κ) : Exchange κ :=
  match x.lingering[i]?.bind Inlet.next with
  | none => x
  | some (cmd, inlet) =>
    { x with lingering := x.lingering.set i inlet, executed := x.executed ++ [cmd] }

def step (x : Exchange κ) : Event κ → Exchange κ
  | .client e => x.follow (x.world.step notify e)
  | .read size => { x with inlet := x.inlet.read size }
  | .execute => x.execute server notify
  | .readLate i size => { x with lingering := x.lingering.modify i (Inlet.read size) }
  | .executeLate i => x.executeLate i

def machine : Machine (Exchange κ) (Event κ) :=
  ⟨Enabled, step server notify⟩

/-- A client that was made and not used yet. -/
def new (sentinel : Sentinel) (what : String) : Exchange κ where
  world := .new sentinel what

/-! ### The invariant -/

/-- A command with the reply that an answer reads as. -/
def wire (pair : Command × Value) : Command × Reply :=
  (pair.1, pair.2.toReply)

/-- The command of an entry with the reply that it was handled with. -/
def handled (entry : CommandRequest κ × Reply) : Command × Reply :=
  (entry.1.command, entry.2)

/-- The answers given on the connection. -/
def current (w : World κ) : List (Command × Value) :=
  w.answered.zip w.answers

/-- The commands carried out and those that may still be are among those issued; and what was
delivered is what the server gave. -/
structure Sound (x : Exchange κ) : Prop where
  inv : x.world.Inv
  accounted : Client.Accounted x.world.client
  settled : x.world.client.client.builder.Settled
  inlet : x.inlet.Holds x.world.unanswered
  once : ∃ pending, List.Forall₂ Inlet.Holds x.lingering pending ∧
    (x.executed ++ pending.flatten).Subperm (Client.commandsOf x.world.front ++ x.world.answered)
  delivers : ∃ earlier, server.Delivers x.executed (earlier ++ current x.world) ∧
    x.delivered.map handled = earlier.map wire

/-! ### Two lists side by side -/

section Lists

variable {α β : Type} {R : α → β → Prop} {xs : List α} {ys : List β} {x : α} {y : β}

theorem forall₂_getElem? (h : List.Forall₂ R xs ys) {i : Nat} (hx : xs[i]? = some x) :
    ∃ y, ys[i]? = some y ∧ R x y := by
  induction h generalizing i with
  | nil => cases hx
  | @cons x' y' xs ys hR _ ih =>
    cases i with
    | zero =>
      cases hx
      exact ⟨y', rfl, hR⟩
    | succ i => exact ih hx

theorem forall₂_set (h : List.Forall₂ R xs ys) (i : Nat) (hR : R x y) :
    List.Forall₂ R (xs.set i x) (ys.set i y) := by
  induction h generalizing i with
  | nil => exact .nil
  | cons hhead htail ih =>
    cases i with
    | zero => exact .cons hR htail
    | succ i => exact .cons hhead (ih i)

theorem forall₂_modify (h : List.Forall₂ R xs ys) (i : Nat) {f : α → α}
    (hf : ∀ x y, R x y → R (f x) y) : List.Forall₂ R (xs.modify i f) ys := by
  induction h generalizing i with
  | nil =>
    rw [List.modify_nil]
    exact .nil
  | cons hhead htail ih =>
    cases i with
    | zero => exact .cons (hf _ _ hhead) htail
    | succ i => exact .cons hhead (ih i)

end Lists

/-! ### Steps -/

/-- The command at a place, and those before and after it. -/
theorem take_succ_of_drop {cmds rest : List Command} {cmd : Command} {n : Nat}
    (h : cmds.drop n = cmd :: rest) :
    n < cmds.length ∧ cmds.take (n + 1) = cmds.take n ++ [cmd] ∧ cmds.drop (n + 1) = rest := by
  have hlength := congrArg List.length h
  rw [List.length_drop, List.length_cons] at hlength
  have hhead : cmds[n]? = some cmd := by
    rw [← List.head?_drop, h]
    rfl
  refine ⟨by omega, ?_, ?_⟩
  · rw [List.take_add_one, hhead]
    rfl
  · rw [← List.tail_drop, h]
    rfl

section Invariant

variable {w : World κ} {base : List (CommandRequest κ)} {cmds held : List Command}

/-- What was written to the connection comes behind the entries in front. -/
theorem front_sent (h : w.Inv) (hopened : w.Opened base cmds held) :
    Client.commandsOf w.client.pushed = Client.commandsOf w.front ++ (cmds ++ held) := by
  rw [h.pushed_eq, Client.commandsOf_append, ← hopened.queued.commands]

/-- The entries handled on the connection are those of the first answers. -/
theorem exchanged_wire (hopened : w.Opened base cmds held) :
    w.exchanged.map handled = ((current w).take w.exchanged.length).map wire := by
  have hcmds := hopened.queued.sent_taken
  rw [List.length_map] at hcmds
  have hfirst : w.answered.take w.exchanged.length = Client.commandsOf (w.exchanged.map Prod.fst) := by
    unfold World.answered
    rw [hopened.sent_eq, List.take_take, Nat.min_eq_left hopened.exchanged, hcmds]
  have hpairs : ((current w).take w.exchanged.length).map wire =
      (Client.commandsOf (w.exchanged.map Prod.fst)).zip (w.exchanged.map Prod.snd) := by
    unfold current
    rw [List.zip_eq_zipWith, List.take_zipWith, ← List.zip_eq_zipWith, hfirst, hopened.replies,
      List.zip_map_right]
    rfl
  rw [hpairs]
  unfold Client.commandsOf
  rw [List.map_map]
  exact List.zip_map'.symm

variable {server : RedisServer τ} {notify : Notification → EStateM Fault (Client κ) Unit} {x : Exchange κ}

theorem Sound.read (h : x.Sound server) (size : Nat) :
    Sound server { x with inlet := x.inlet.read size } :=
  ⟨h.inv, h.accounted, h.settled, h.inlet.read size, h.once, h.delivers⟩

theorem Sound.readLate (h : x.Sound server) (i size : Nat) :
    Sound server { x with lingering := x.lingering.modify i (Inlet.read size) } := by
  obtain ⟨pending, hholds, honce⟩ := h.once
  exact ⟨h.inv, h.accounted, h.settled, h.inlet,
    ⟨pending, forall₂_modify hholds i fun _ _ hi => hi.read size, honce⟩, h.delivers⟩

/-- A command of the connection: the next one that was written. -/
theorem Sound.execute (hn : Reticent notify) (h : x.Sound server)
    (hc : x.world.client.isConnected = true) : Sound server (x.execute server notify) := by
  unfold Exchange.execute
  split
  · exact h
  · next cmd inlet hnext =>
    obtain ⟨rest, hunanswered, hinlet⟩ := h.inlet.next hnext
    obtain ⟨base, held, hopened⟩ := h.inv.opened hc
    obtain ⟨hlt, htake, hdrop⟩ := take_succ_of_drop hunanswered
    have henabled : x.world.Enabled (.answer (server.respond x.executed cmd)) := by
      refine ⟨hc, server.wellFormed _ _, x.world.sent, ?_, hlt⟩
      rw [hopened.queued.written]
      exact decodeCommands_encodeCommands _
    generalize hw : x.world.step notify (.answer (server.respond x.executed cmd)) = w'
    have hanswers : w'.answers = x.world.answers ++ [server.respond x.executed cmd] := by
      rw [← hw]
      rfl
    have hsent : w'.sent = x.world.sent := by
      rw [← hw]
      rfl
    have hanswered : w'.answered = x.world.answered ++ [cmd] := by
      unfold World.answered
      rw [hsent, hanswers, List.length_append, List.length_singleton, htake]
    refine ⟨hw ▸ h.inv.step hn _ henabled, ?_, ?_, ?_, ?_, ?_⟩
    · rw [← hw]
      exact h.accounted
    · rw [← hw]
      exact h.settled
    · unfold World.unanswered
      rw [hsent, hanswers, List.length_append, List.length_singleton, hdrop]
      exact hinlet
    · obtain ⟨pending, hholds, honce⟩ := h.once
      have hfront : w'.front = x.world.front := by
        rw [← hw]
        rfl
      refine ⟨pending, hholds, ?_⟩
      dsimp only
      rw [hfront, hanswered, ← List.append_assoc]
      refine (List.Perm.subperm_right ?_).mp ((List.subperm_append_right [cmd]).mpr honce)
      rw [List.append_assoc, List.append_assoc]
      exact List.perm_append_comm.append_left _
    · obtain ⟨earlier, hdelivers, hdelivered⟩ := h.delivers
      refine ⟨earlier, ?_, hdelivered⟩
      have hlength : x.world.answered.length = x.world.answers.length := by
        unfold World.answered
        rw [List.length_take, Nat.min_eq_left hopened.answers]
      unfold current
      dsimp only
      rw [hanswered, hanswers, List.zip_append hlength, ← List.append_assoc]
      exact hdelivers.serve cmd

/-- A command of a connection that is gone. -/
theorem Sound.executeLate (h : x.Sound server) (i : Nat) : Sound server (x.executeLate i) := by
  unfold Exchange.executeLate
  split
  · exact h
  · next cmd inlet hnext =>
    obtain ⟨old, hold, hnext⟩ := Option.bind_eq_some_iff.mp hnext
    obtain ⟨pending, hholds, honce⟩ := h.once
    obtain ⟨cmds, hcmds, hi⟩ := forall₂_getElem? hholds hold
    obtain ⟨rest, rfl, hrest⟩ := hi.next hnext
    obtain ⟨earlier, hdelivers, hdelivered⟩ := h.delivers
    refine ⟨h.inv, h.accounted, h.settled, h.inlet, ⟨pending.set i rest, forall₂_set hholds i hrest, ?_⟩,
      ⟨earlier, hdelivers.ignore cmd, hdelivered⟩⟩
    refine (List.Perm.subperm_right ?_).mp honce
    dsimp only
    rw [List.append_assoc]
    exact (Client.flatten_set_perm hcmds).append_left _

/-- The connection is still open: the server is to read what was written in the meantime. -/
theorem Sound.stays (hn : Reticent notify) (h : x.Sound server) {e : World.Event κ}
    (he : x.world.Enabled e) (hclient : ∀ value, e ≠ .answer value)
    (hc : x.world.client.isConnected = true) (hcloses : e.closes = false) :
    Sound server (x.follow (x.world.step notify e)) := by
  have hinv := h.inv.step hn e he
  obtain ⟨base, held, hopened⟩ := h.inv.opened hc
  obtain ⟨hc', ⟨more, hwritten⟩, hsettled⟩ := World.step_open hn h.inv he hc hcloses
  replace hsettled := hsettled h.settled
  have hfront := World.front_prefix hn h.inv h.accounted he
  have hanswers : (x.world.step notify e).answers = x.world.answers := by
    cases e with
    | answer value => exact absurd rfl (hclient value)
    | disconnect => cases hcloses
    | drop => cases hcloses
    | _ => rfl
  have haccounted := (World.step_settled hn x.world e).2.1 h.accounted
  generalize x.world.step notify e = w' at hinv hc' hwritten hsettled hfront hanswers haccounted
  obtain ⟨base', held', hopened'⟩ := hinv.opened hc'
  have hsent : w'.sent = x.world.sent ++ more :=
    encodeCommands_injective (hopened'.queued.written.symm.trans hwritten)
  have hanswered : w'.answered = x.world.answered := by
    unfold World.answered
    rw [hsent, hanswers, List.take_append_of_le_length hopened.answers]
  have hdata : w'.client.client.client.written.drop x.world.client.client.client.written.length =
      encodeCommands more := by
    rw [hwritten, encodeCommands_append, ← hopened.queued.written, List.drop_left]
  unfold follow
  rw [hc, hc']
  dsimp only
  refine ⟨hinv, haccounted, hsettled, ?_, ?_, ?_⟩
  · unfold World.unanswered
    rw [hdata, hsent, hanswers, List.drop_append_of_le_length hopened.answers]
    exact h.inlet.write more
  · obtain ⟨pending, hholds, honce⟩ := h.once
    refine ⟨pending, hholds, ?_⟩
    rw [hanswered]
    refine honce.trans (List.Sublist.subperm (List.Sublist.append_right ?_ _))
    exact (hfront.sublist).map CommandRequest.command
  · obtain ⟨earlier, hdelivers, hdelivered⟩ := h.delivers
    refine ⟨earlier, ?_, hdelivered⟩
    unfold current
    dsimp only
    rw [hanswered, hanswers]
    exact hdelivers

/-- The connection is gone: what was written to it may still be carried out. -/
theorem Sound.closes (hn : Reticent notify) (h : x.Sound server) {e : World.Event κ}
    (he : x.world.Enabled e) (hc : x.world.client.isConnected = true) (hcloses : e.closes = true) :
    Sound server (x.follow (x.world.step notify e)) := by
  have hinv := h.inv.step hn e he
  obtain ⟨base, held, hopened⟩ := h.inv.opened hc
  obtain ⟨hc', hcommands⟩ := World.step_closes hn h.inv he hc hcloses
  obtain ⟨hpushed, haccounted, -⟩ := World.step_settled hn x.world e
  replace haccounted := haccounted h.accounted
  generalize x.world.step notify e = w' at hinv hc' hcommands hpushed haccounted
  have hclosed := hinv.closed hc'
  have hsent : w'.sent = [] := World.sent_closed hc'
  have hanswered : w'.answered = [] := by
    unfold World.answered
    rw [hsent, List.take_nil]
  have hfront : w'.front = w'.client.pushed := by
    have hall := hinv.pushed_eq
    rw [hclosed.exchanged, hcommands, List.map_nil, List.append_nil, List.append_nil] at hall
    exact hall.symm
  unfold follow
  rw [hc, hc']
  dsimp only
  refine ⟨hinv, haccounted, hclosed.builder ▸ ReplyBuilder.settled_new, ?_, ?_, ?_⟩
  · unfold World.unanswered
    rw [hsent, List.drop_nil]
    exact .empty
  · obtain ⟨pending, hholds, honce⟩ := h.once
    refine ⟨pending ++ [x.world.unanswered], List.rel_append hholds (.cons h.inlet .nil), ?_⟩
    have hnow : x.world.answered ++ x.world.unanswered = x.world.sent := List.take_append_drop _ _
    have hissued : Client.commandsOf x.world.front ++ x.world.sent <+:
        Client.commandsOf w'.client.pushed := by
      have hold := front_sent h.inv hopened
      rw [← List.append_assoc] at hold
      exact (hold ▸ List.prefix_append _ _).trans (hpushed.map CommandRequest.command)
    rw [hanswered, hfront, List.append_nil, List.flatten_append, List.flatten_singleton,
      ← List.append_assoc]
    refine ((List.subperm_append_right x.world.unanswered).mpr honce).trans ?_
    rw [List.append_assoc, hnow]
    exact hissued.sublist.subperm
  · obtain ⟨earlier, hdelivers, hdelivered⟩ := h.delivers
    refine ⟨earlier ++ (current x.world).take x.world.exchanged.length, ?_, ?_⟩
    · have hnone : current w' = [] := by
        unfold current
        rw [hanswered]
        rfl
      rw [hnone, List.append_nil]
      exact hdelivers.lose (List.Sublist.append_left (List.take_sublist _ _) _)
    · rw [List.map_append, List.map_append, hdelivered, exchanged_wire hopened]

/-- There was no connection: if there is one now, it is a new one. -/
theorem Sound.shut (hn : Reticent notify) (h : x.Sound server) {e : World.Event κ}
    (he : x.world.Enabled e) (hc : x.world.client.isConnected = false) :
    Sound server (x.follow (x.world.step notify e)) := by
  have hinv := h.inv.step hn e he
  have hopens := World.step_opens hn h.inv he hc
  have hfront := World.front_prefix hn h.inv h.accounted he
  have haccounted := (World.step_settled hn x.world e).2.1 h.accounted
  have hanswers : (x.world.step notify e).answers = [] := by
    have hnone := (h.inv.closed hc).answers
    cases e with
    | answer value => exact absurd (he.1.symm.trans hc) Bool.noConfusion
    | disconnect => rfl
    | drop => rfl
    | _ => exact hnone
  generalize x.world.step notify e = w' at hinv hopens hfront haccounted hanswers
  have hbefore : x.world.answered = [] := by
    unfold World.answered
    rw [World.sent_closed hc, List.take_nil]
  have hanswered : w'.answered = [] := by
    unfold World.answered
    rw [hanswers]
    rfl
  have hunanswered : w'.unanswered = w'.sent := by
    unfold World.unanswered
    rw [hanswers]
    rfl
  have honce : ∃ pending, List.Forall₂ Inlet.Holds x.lingering pending ∧
      (x.executed ++ pending.flatten).Subperm (Client.commandsOf w'.front ++ w'.answered) := by
    obtain ⟨pending, hholds, honce⟩ := h.once
    refine ⟨pending, hholds, ?_⟩
    rw [hanswered]
    rw [hbefore] at honce
    refine honce.trans (List.Sublist.subperm (List.Sublist.append_right ?_ _))
    exact (hfront.sublist).map CommandRequest.command
  have hdelivers : ∃ earlier, server.Delivers x.executed (earlier ++ current w') ∧
      x.delivered.map handled = earlier.map wire := by
    obtain ⟨earlier, hdelivers, hdelivered⟩ := h.delivers
    refine ⟨earlier, ?_, hdelivered⟩
    unfold current at hdelivers ⊢
    rw [hbefore] at hdelivers
    rw [hanswered]
    exact hdelivers
  unfold follow
  rw [hc]
  cases hc' : w'.client.isConnected with
  | true =>
    obtain ⟨base', held', hopened'⟩ := hinv.opened hc'
    refine ⟨hinv, haccounted, (hopens hc').2 ▸ ReplyBuilder.settled_new, ?_, honce, hdelivers⟩
    rw [hunanswered, hopened'.queued.written]
    exact Inlet.Holds.empty.write _
  | false =>
    refine ⟨hinv, haccounted, (hinv.closed hc').builder ▸ ReplyBuilder.settled_new, ?_, honce,
      hdelivers⟩
    rw [hunanswered, World.sent_closed hc']
    have hempty := h.inlet
    unfold World.unanswered at hempty
    rw [World.sent_closed hc, List.drop_nil] at hempty
    exact hempty

theorem Sound.step (hn : Reticent notify) (h : x.Sound server) {e : Event κ} (he : x.Enabled e) :
    Sound server (x.step server notify e) := by
  cases e with
  | client e =>
    cases hc : x.world.client.isConnected with
    | false => exact h.shut hn he.2 hc
    | true =>
      cases hcloses : e.closes with
      | true => exact h.closes hn he.2 hc hcloses
      | false => exact h.stays hn he.2 he.1 hc hcloses
  | read size => exact h.read size
  | execute => exact h.execute hn he
  | readLate i size => exact h.readLate i size
  | executeLate i => exact h.executeLate i

theorem Sound.new (sentinel : Sentinel) (what : String) :
    Sound server (new sentinel what : Exchange κ) where
  inv := .new sentinel what
  accounted := .new _
  settled := ReplyBuilder.settled_new
  inlet := .empty
  once := ⟨[], .nil, List.nil_subperm⟩
  delivers := ⟨[], .nil, rfl⟩

theorem Sound.run (hn : Reticent notify) (sentinel : Sentinel) (what : String)
    {events : List (Event κ)}
    (h : (machine server notify).Possible (Exchange.new sentinel what) events) :
    Sound server ((machine server notify).run (Exchange.new sentinel what) events) :=
  h.invariant (I := Sound server) (fun _ _ hx he => hx.step hn he) (.new sentinel what)

/-- No command was carried out more often than it was issued. -/
theorem Sound.executed_once (h : x.Sound server) :
    x.executed.Subperm (Client.commandsOf x.world.client.pushed) := by
  obtain ⟨pending, -, honce⟩ := h.once
  have hexecuted := (List.sublist_append_left x.executed pending.flatten).subperm.trans honce
  rcases h.inv.link with hclosed | ⟨base, cmds, held, hopened⟩
  · have hnone : x.world.answered = [] := by
      unfold World.answered
      rw [hclosed.answers]
      rfl
    have hfront : Client.commandsOf x.world.front <+: Client.commandsOf x.world.client.pushed :=
      (List.take_prefix _ _).map _
    rw [hnone, List.append_nil] at hexecuted
    exact hexecuted.trans hfront.sublist.subperm
  · have hanswered : x.world.answered <+: cmds ++ held := by
      unfold World.answered
      rw [hopened.sent_eq]
      exact (List.take_prefix _ _).trans (List.prefix_append _ _)
    rw [front_sent h.inv hopened]
    exact hexecuted.trans (hanswered.sublist.append_left _).subperm

end Invariant

/-! ### Every run -/

variable {server} {notify}

/-- In every state of every run, the server has carried out each command at most as often as it
was issued, also when its connection was lost in between; and the replies that were delivered,
on all connections, are some of those that the server gave when it carried out these commands
one after the other, each to its own command and in their order. -/
theorem exchange_executed_once (hn : Reticent notify) (sentinel : Sentinel) (what : String)
    {events : List (Event κ)} (h : (machine server notify).Possible (new sentinel what) events) :
    let x := (machine server notify).run (new sentinel what) events
    x.executed.Subperm (Client.commandsOf x.world.client.pushed) ∧
      ((x.delivered ++ x.world.exchanged).map handled).Sublist
        ((server.history x.executed).map wire) := by
  have hx := Sound.run hn sentinel what h
  generalize (machine server notify).run (new sentinel what) events = x at hx
  refine ⟨hx.executed_once, ?_⟩
  obtain ⟨earlier, hdelivers, hdelivered⟩ := hx.delivers
  rw [List.map_append, hdelivered]
  rcases hx.inv.link with hclosed | ⟨base, cmds, held, hopened⟩
  · rw [hclosed.exchanged, List.map_nil, List.append_nil]
    exact (hdelivers.lose (List.sublist_append_left _ _)).map wire
  · rw [exchanged_wire hopened, ← List.map_append]
    exact (hdelivers.lose ((List.take_sublist _ _).append_left _)).map wire

/-- A server that tells whether it has carried out an odd number of commands. -/
def parity : RedisServer Bool where
  initial := false
  serve odd _ := (!odd, .integer (if odd then 1 else 0))
  wellFormed odd _ := by
    show -2 ^ 63 < _ ∧ _ < 2 ^ 63
    cases odd <;> decide

/-- The connection is lost when one of two commands was answered. The other one is carried out
all the same, before that of the next connection. -/
def severed : List (Event Nat) :=
  [.client (.connect { host := ascii "localhost", port := 6379 } true),
    .client (.call (.send [ascii "INCR", ascii "k"] (some 0))),
    .client (.call (.send [ascii "INCR", ascii "l"] (some 1))), .client (.call .commit),
    .read 100, .execute, .client (.chunk 100 []), .client .drop, .executeLate 0,
    .client (.connect { host := ascii "localhost", port := 6379 } true),
    .client (.call (.send [ascii "GET", ascii "k"] (some 2))), .client (.call .commit),
    .read 100, .execute, .client (.chunk 100 [])]

theorem possible_severed :
    (machine parity Client.silent).Possible (new {} "") severed :=
  .intro ⟨nofun, trivial⟩ <| .intro ⟨nofun, trivial⟩ <| .intro ⟨nofun, trivial⟩ <|
    .intro ⟨nofun, trivial⟩ <| .intro trivial <|
    .intro (show _ = true by decide +kernel) <|
    .intro ⟨nofun, by decide +kernel, by decide +kernel⟩ <|
    .intro ⟨nofun, by decide +kernel, by decide +kernel⟩ <| .intro trivial <|
    .intro ⟨nofun, trivial⟩ <| .intro ⟨nofun, trivial⟩ <| .intro ⟨nofun, trivial⟩ <|
    .intro trivial <| .intro (show _ = true by decide +kernel) <|
    .intro ⟨nofun, by decide +kernel, by decide +kernel⟩ trivial

theorem reticent_silent {κ : Type} :
    Reticent (Client.silent : Notification → EStateM Fault (Client κ) Unit) :=
  ⟨fun _ _ => rfl, fun _ _ _ => rfl⟩

theorem exchange_executed_once_severed :
    let x := (machine parity Client.silent).run (new {} "") severed
    x.executed.Subperm (Client.commandsOf x.world.client.pushed) ∧
      ((x.delivered ++ x.world.exchanged).map handled).Sublist
        ((parity.history x.executed).map wire) :=
  exchange_executed_once reticent_silent {} "" possible_severed

/-- Once the send buffer is empty and nothing is on its way any more, in neither direction, the
queue is empty too: every command that was written was carried out, and its entry handled. -/
theorem exchange_quiet (hn : Reticent notify) (sentinel : Sentinel) (what : String)
    {events : List (Event κ)} (h : (machine server notify).Possible (new sentinel what) events) :
    let x := (machine server notify).run (new sentinel what) events
    x.world.client.isConnected = true → x.world.client.client.buffer = [] →
      x.inlet.unread = [] → x.inlet.next = none → x.world.inFlight = [] →
      x.world.client.commands = [] ∧
        decodeCommands x.world.client.client.client.written =
          some (x.world.exchanged.map fun entry => entry.1.command) := by
  have hx := Sound.run hn sentinel what h
  generalize (machine server notify).run (new sentinel what) events = x at hx
  dsimp only
  intro hc hbuffer hunread hnext hinFlight
  obtain ⟨base, held, hopened⟩ := hx.inv.opened hc
  have hanswered : x.world.answers.length = x.world.sent.length := by
    have hnone := hx.inlet.done hunread hnext
    have hle := hopened.answers
    unfold World.unanswered at hnone
    rw [List.drop_eq_nil_iff] at hnone
    omega
  have hexchanged : x.world.exchanged.length = x.world.answers.length := by
    have hpending := hopened.pending
    rw [hinFlight] at hpending
    have hnone := hpending.none_left hx.settled
    have hle := hopened.exchanged
    rw [List.drop_eq_nil_iff] at hnone
    omega
  have hheld : held = [] :=
    encodeCommands_injective (hopened.queued.buffer.symm.trans hbuffer)
  have hcommands := hopened.queued.commands
  rw [hheld, List.append_nil, Client.commandsOf_append] at hcommands
  have hempty : x.world.client.commands = [] := by
    have hlength := congrArg List.length hcommands
    unfold Client.commandsOf at hlength
    rw [List.length_append, List.length_map, List.length_map, List.length_map] at hlength
    exact List.length_eq_zero_iff.mp (by omega)
  refine ⟨hempty, ?_⟩
  rw [hempty] at hcommands
  rw [hopened.queued.written, decodeCommands_encodeCommands, hcommands]
  unfold Client.commandsOf
  rw [List.map_nil, List.append_nil, List.map_map]
  rfl

theorem exchange_quiet_severed :
    let x := (machine parity Client.silent).run (new {} "") severed
    x.world.client.commands = [] ∧
      decodeCommands x.world.client.client.client.written =
        some (x.world.exchanged.map fun entry => entry.1.command) :=
  exchange_quiet reticent_silent {} "" possible_severed (by decide +kernel) (by decide +kernel)
    (by decide +kernel) (by decide +kernel) (by decide +kernel)

end Exchange

end CppRedis
