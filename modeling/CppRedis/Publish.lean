import CppRedis.Bitfield
import CppRedis.Broadcast
import CppRedis.Exchange

/-!
# From a publisher to a subscriber

A client that publishes and a subscriber that listens, each with a connection of its own to one
server. When the server carries out a `PUBLISH` of the client, it writes the message to the
connection of the subscriber, once for each subscription of that connection that it matches.

* `Publication`: a command that was carried out, with the messages that it led to.
* `PubSub`: the two sides, in any order of their steps.
* `published_heard`: what is heard was published, in the order of the server and once for each
  subscription.
* `published_complete`: on an open connection on which nothing is under way, nothing published
  since it was opened is missing.
-/

namespace CppRedis

open Text Procedure

open Client (Reticent)

open Subscriber (Push Letter Broadcast Silent)

/-- `publish`. -/
def Client.publish {κ : Type} (channel message : Bytes) (replyCallback : Option κ) : PipelineCall κ :=
  .send [ascii "PUBLISH", channel, message] replyCallback

/-! ## Publications -/

/-- A command that the server has carried out, what the subscriber was subscribed to then, and the
messages that were written to its connection. -/
structure Publication where
  command : Command
  subscriptions : Server
  messages : List Push

namespace Publication

/-- The command publishes the message, and there is a subscription for it. `glob` tells whether a
pattern matches a channel. -/
def Addresses (glob : Bytes → Bytes → Bool) (p : Publication) (message : Push) : Prop :=
  (∃ word, p.command = [word, message.text.1, message.text.2] ∧ keyword word = ascii "PUBLISH") ∧
    message.key ∈ p.subscriptions.keys message.table ∧
    (message.table = .patterns → glob message.key message.text.1 = true)

/-- Each of these messages was written once, and no other one. -/
structure Complete (glob : Bytes → Bytes → Bool) (p : Publication) : Prop where
  once : p.messages.Nodup
  all : ∀ message, message ∈ p.messages ↔ p.Addresses glob message

end Publication

/-! ## The publisher -/

namespace Exchange

variable {κ τ : Type} {server : RedisServer τ}
  {notify : Notification → EStateM Fault (Client κ) Unit}

/-- The command that is carried out next, of the connection or of one that is gone. -/
def nextCommand (x : Exchange κ) : Option Nat → Option Command
  | none => x.inlet.next.map Prod.fst
  | some i => (x.lingering[i]?.bind Inlet.next).map Prod.fst

/-- It is carried out. -/
def Event.carryOut : Option Nat → Event κ
  | none => .execute
  | some i => .executeLate i

def Event.carries : Event κ → Bool
  | .execute => true
  | .executeLate _ => true
  | _ => false

theorem step_executed (x : Exchange κ) {e : Event κ} (he : e.carries = false) :
    (x.step server notify e).executed = x.executed := by
  cases e with
  | client e =>
    show (x.follow (x.world.step notify e)).executed = x.executed
    unfold follow
    dsimp only
    split <;> rfl
  | read size => rfl
  | readLate i size => rfl
  | execute => cases he
  | executeLate i => cases he

theorem carryOut_executed (x : Exchange κ) (late : Option Nat) :
    (x.step server notify (.carryOut late)).executed = x.executed ++ (x.nextCommand late).toList := by
  cases late with
  | none =>
    show (x.execute server notify).executed = _
    unfold execute nextCommand
    cases x.inlet.next with
    | none => exact (List.append_nil _).symm
    | some next => rfl
  | some i =>
    show (x.executeLate i).executed = _
    unfold executeLate nextCommand
    dsimp only
    cases x.lingering[i]?.bind Inlet.next with
    | none => exact (List.append_nil _).symm
    | some next => rfl

end Exchange

/-! ## The subscriber -/

namespace Subscriber.Broadcast

variable {μ : Type} {notify : Notification → EStateM Fault (Subscriber μ) Unit}

/-- The connection is closed or lost. -/
def Event.leaves : Event μ → Bool
  | .disconnect => true
  | .drop _ => true
  | _ => false

/-- A message is written. -/
def Event.pushes : Event μ → Bool
  | .push _ => true
  | _ => false

theorem step_pushed (w : Broadcast μ) {e : Event μ} (he : e.pushes = false) :
    (w.step notify e).pushed = w.pushed := by
  cases e with
  | push p => cases he
  | _ => rfl

theorem step_letters (w : Broadcast μ) {e : Event μ} (he : e.pushes = false) :
    (w.step notify e).letters.filterMap Letter.push? =
      if e.leaves then [] else w.letters.filterMap Letter.push? := by
  cases e with
  | push p => cases he
  | answer value h =>
    show (w.letters ++ [_]).filterMap Letter.push? = _
    rw [List.filterMap_append]
    exact List.append_nil _
  | _ => rfl

/-- Some messages are written. -/
theorem run_push (notify : Notification → EStateM Fault (Subscriber μ) Unit) (w : Broadcast μ)
    (messages : List Push) :
    ((machine notify).run w (messages.map .push)).pushed = w.pushed ++ messages ∧
      ((machine notify).run w (messages.map .push)).letters.filterMap Letter.push? =
        w.letters.filterMap Letter.push? ++ messages := by
  induction messages generalizing w with
  | nil => exact ⟨(List.append_nil _).symm, (List.append_nil _).symm⟩
  | cons p messages ih =>
    obtain ⟨hpushed, hletters⟩ := ih (w.step notify (.push p))
    refine ⟨hpushed.trans (List.append_assoc _ _ _), hletters.trans ?_⟩
    show (w.letters ++ [Letter.push p]).filterMap Letter.push? ++ messages = _
    rw [List.filterMap_append, List.append_assoc]
    rfl

end Subscriber.Broadcast

/-! ## Both -/

/-- A publisher and a subscriber, with what the server has carried out for the publisher. The
first `opened` of these commands came before the subscriber's connection was opened. -/
structure PubSub (κ μ : Type) where
  publisher : Exchange κ
  subscriber : Broadcast μ
  record : List Publication := []
  opened : Nat := 0

namespace PubSub

variable {κ μ τ : Type}

/-- A step of one side, but for those of the server in which it carries out a command of the
publisher: its messages come with it. -/
inductive Event (κ μ : Type)
  | publisher (e : Exchange.Event κ)
  | subscriber (e : Broadcast.Event μ)
  | carryOut (late : Option Nat) (messages : List Push)

/-- The steps of the subscriber. -/
def Event.subscriber? : Event κ μ → Option (Broadcast.Event μ)
  | .subscriber e => some e
  | _ => none

section Steps

variable (server : RedisServer τ) (glob : Bytes → Bytes → Bool)
  (notify : Notification → EStateM Fault (Client κ) Unit)
  (notify' : Notification → EStateM Fault (Subscriber μ) Unit)

/-- What the subscriber is subscribed to when a command is carried out. -/
def publication (x : PubSub κ μ) (messages : List Push) (command : Command) : Publication :=
  ⟨command, executeAll x.subscriber.carriedOut, messages⟩

def Enabled (x : PubSub κ μ) : Event κ μ → Prop
  | .publisher e => e.carries = false ∧ x.publisher.Enabled e
  | .subscriber e => e.pushes = false ∧ x.subscriber.Enabled notify' e
  | .carryOut late messages =>
    x.publisher.Enabled (.carryOut late) ∧
      (∃ command ∈ x.publisher.nextCommand late, (x.publication messages command).Complete glob) ∧
      (Broadcast.machine notify').Possible x.subscriber (messages.map .push)

def step (x : PubSub κ μ) : Event κ μ → PubSub κ μ
  | .publisher e => { x with publisher := x.publisher.step server notify e }
  | .subscriber e =>
    { x with
      subscriber := x.subscriber.step notify' e
      opened := if e.leaves then x.record.length else x.opened }
  | .carryOut late messages =>
    { x with
      publisher := x.publisher.step server notify (.carryOut late)
      subscriber := (Broadcast.machine notify').run x.subscriber (messages.map .push)
      record := x.record ++ ((x.publisher.nextCommand late).map (x.publication messages)).toList }

def machine : Machine (PubSub κ μ) (Event κ μ) :=
  ⟨Enabled glob notify', step server notify notify'⟩

end Steps

/-- Two objects that were made and not used yet. -/
def new (sentinel sentinel' : Sentinel) (what what' : String) : PubSub κ μ where
  publisher := .new sentinel what
  subscriber := .new sentinel' what'

/-! ### The invariant -/

section Invariant

variable (server : RedisServer τ) (glob : Bytes → Bytes → Bool)
  (given : Subscriber.Table → Bytes → μ → Prop) (kept : Subscriber.Table → Bytes → Prop)

/-- The messages written to the subscriber are those of the commands that were carried out. -/
structure Sound (x : PubSub κ μ) : Prop where
  publisher : x.publisher.Sound server
  subscriber : x.subscriber.Inv given kept
  executed : x.record.map Publication.command = x.publisher.executed
  complete : ∀ p ∈ x.record, p.Complete glob
  pushed : x.subscriber.pushed = x.record.flatMap Publication.messages
  letters : x.subscriber.letters.filterMap Letter.push? =
    (x.record.drop x.opened).flatMap Publication.messages
  opened : x.opened ≤ x.record.length

variable {server glob given kept} {notify : Notification → EStateM Fault (Client κ) Unit}
  {notify' : Notification → EStateM Fault (Subscriber μ) Unit} {x : PubSub κ μ}

/-- The server carries out a command of the publisher. -/
theorem Sound.carryOut (hn : Reticent notify) (hn' : Silent notify')
    (h : x.Sound server glob given kept) {late : Option Nat} {messages : List Push}
    (he : x.Enabled glob notify' (.carryOut late messages)) :
    Sound server glob given kept (x.step server notify notify' (.carryOut late messages)) := by
  obtain ⟨hpublisher, ⟨command, hcommand, hcomplete⟩, hpossible⟩ := he
  have hnext : x.publisher.nextCommand late = some command := hcommand
  have hsubscriber := hpossible.invariant_of_kind (I := Broadcast.Inv given kept)
    (K := fun e => e.actions = [])
    (fun _ _ hw he henabled => hw.step hn' henabled fun a ha => absurd (he ▸ ha) List.not_mem_nil)
    (fun e he => by
      obtain ⟨p, -, rfl⟩ := List.mem_map.mp he
      rfl) h.subscriber
  obtain ⟨hpushed, hletters⟩ := Broadcast.run_push notify' x.subscriber messages
  have hrecord : (x.step server notify notify' (.carryOut late messages)).record =
      x.record ++ [x.publication messages command] := by
    show x.record ++ ((x.publisher.nextCommand late).map _).toList = _
    rw [hnext]
    rfl
  refine ⟨h.publisher.step hn hpublisher, hsubscriber, ?_, ?_, ?_, ?_, ?_⟩
  · rw [hrecord, List.map_append, h.executed]
    show _ = (x.publisher.step server notify (.carryOut late)).executed
    rw [x.publisher.carryOut_executed, hnext]
    rfl
  · intro p hp
    rw [hrecord] at hp
    rcases List.mem_append.mp hp with hold | hnew
    · exact h.complete p hold
    · rw [List.mem_singleton.mp hnew]
      exact hcomplete
  · rw [hrecord, List.flatMap_append, ← h.pushed, List.flatMap_singleton]
    exact hpushed
  · rw [hrecord]
    show _ = ((x.record ++ _).drop x.opened).flatMap _
    rw [List.drop_append_of_le_length h.opened, List.flatMap_append, ← h.letters,
      List.flatMap_singleton]
    exact hletters
  · rw [hrecord, List.length_append]
    exact h.opened.trans (Nat.le_add_right _ _)

theorem Sound.step (hn : Reticent notify) (hn' : Silent notify')
    (h : x.Sound server glob given kept) {e : Event κ μ} (he : x.Enabled glob notify' e)
    (hactions : ∀ e' ∈ e.subscriber?, ∀ a ∈ e'.actions, a.Within given kept) :
    Sound server glob given kept (x.step server notify notify' e) := by
  cases e with
  | publisher e =>
    refine ⟨h.publisher.step hn he.2, h.subscriber, ?_, h.complete, h.pushed, h.letters, h.opened⟩
    show _ = (x.publisher.step server notify e).executed
    rw [x.publisher.step_executed he.1]
    exact h.executed
  | subscriber e =>
    refine ⟨h.publisher, h.subscriber.step hn' he.2 (hactions e rfl), h.executed, h.complete,
      (x.subscriber.step_pushed he.1).trans h.pushed, ?_, ?_⟩
    · refine (x.subscriber.step_letters he.1).trans ?_
      show _ = (x.record.drop (if e.leaves then x.record.length else x.opened)).flatMap _
      split
      · rw [List.drop_length]
        rfl
      · exact h.letters
    · show (if e.leaves then x.record.length else x.opened) ≤ x.record.length
      split
      · exact Nat.le_refl _
      · exact h.opened
  | carryOut late messages => exact h.carryOut hn hn' he

theorem Sound.new (sentinel sentinel' : Sentinel) (what what' : String) :
    Sound server glob given kept (new sentinel sentinel' what what' : PubSub κ μ) where
  publisher := .new sentinel what
  subscriber := .new sentinel' what'
  executed := rfl
  complete _ hp := absurd hp List.not_mem_nil
  pushed := rfl
  letters := rfl
  opened := Nat.le_refl 0

end Invariant

/-! ### Runs -/

variable {server : RedisServer τ} {glob : Bytes → Bytes → Bool}
  {notify : Notification → EStateM Fault (Client κ) Unit}
  {notify' : Notification → EStateM Fault (Subscriber μ) Unit}

/-- The steps of the subscriber in a run. -/
def subscriberEvents (events : List (Event κ μ)) : List (Broadcast.Event μ) :=
  events.filterMap Event.subscriber?

theorem sound_run (hn : Reticent notify) (hn' : Silent notify') (sentinel sentinel' : Sentinel)
    (what what' : String) {events : List (Event κ μ)}
    (h : (machine server glob notify notify').Possible (new sentinel sentinel' what what') events) :
    Sound server glob (Broadcast.Given (subscriberEvents events))
      (Broadcast.Kept (subscriberEvents events))
      ((machine server glob notify notify').run (new sentinel sentinel' what what') events) :=
  h.invariant_of_kind (K := (· ∈ events))
    (fun _ _ hx he henabled => hx.step hn hn' henabled fun _ he' _ ha =>
      Broadcast.within_events (List.mem_filterMap.mpr ⟨_, he, he'⟩) ha)
    (fun _ he => he) (.new sentinel sentinel' what what')

/-- In every run of a publisher and a subscriber, over all connections of both: the server carries
out each command at most as often as it was issued, and each call of a message callback is for a
message that a `PUBLISH` among these has led to, with its channel and its text. The calls are in
the order in which the server has carried these out, with at most one for each `PUBLISH` and each
subscription to which it was addressed, and the callback was given for that subscription. -/
theorem published_heard (hn : Reticent notify) (hn' : Silent notify')
    (sentinel sentinel' : Sentinel) (what what' : String) {events : List (Event κ μ)}
    (h : (machine server glob notify notify').Possible (new sentinel sentinel' what what') events) :
    let x := (machine server glob notify notify').run (new sentinel sentinel' what what') events
    x.record.map Publication.command = x.publisher.executed ∧
      x.publisher.executed.Subperm (Client.commandsOf x.publisher.world.client.pushed) ∧
      (∀ p ∈ x.record, p.Complete glob) ∧
      ∃ passed, passed.Sublist (x.record.flatMap Publication.messages) ∧
        List.Forall₂ (fun m call => call.2 = m.text ∧
          Broadcast.Given (subscriberEvents events) m.table m.key call.1) passed
          x.subscriber.subscriber.heard := by
  have hx := sound_run hn hn' sentinel sentinel' what what' h
  generalize (machine server glob notify notify').run (new sentinel sentinel' what what') events = x
    at hx
  refine ⟨hx.executed, hx.publisher.executed_once, hx.complete, ?_⟩
  rw [← hx.pushed]
  exact hx.subscriber.overall.exists_sublist

/-- A subscription of each kind, and a message for both. -/
def dispatch : List (Event Nat Nat) :=
  [.subscriber (.act (.op (.subscribe .channels (ascii "news") 1 none))),
    .subscriber (.act (.op (.subscribe .patterns (ascii "n*") 2 none))),
    .subscriber (.connect { host := ascii "localhost", port := 6379 } true),
    .subscriber (.act .commit),
    .subscriber (.answer (.array [.bulkString (ascii "subscribe"), .bulkString (ascii "news"),
      .integer 1]) trivial),
    .subscriber (.answer (.array [.bulkString (ascii "psubscribe"), .bulkString (ascii "n*"),
      .integer 2]) trivial),
    .publisher (.client (.connect { host := ascii "localhost", port := 6379 } true)),
    .publisher (.client (.call (Client.publish (ascii "news") (ascii "a") none))),
    .publisher (.client (.call .commit)), .publisher (.read 100),
    .carryOut none [.message (ascii "news") (ascii "a"),
      .pmessage (ascii "n*") (ascii "news") (ascii "a")],
    .subscriber (.chunk 400 [])]

/-- A pattern that ends with a star. -/
def startsWith (pattern channel : Bytes) : Bool :=
  pattern.dropLast.isPrefixOf channel

theorem complete_dispatch {subscriptions : Server}
    (hchannels : subscriptions.channels = {ascii "news"})
    (hpatterns : subscriptions.patterns = {ascii "n*"}) :
    Publication.Complete startsWith ⟨[ascii "PUBLISH", ascii "news", ascii "a"], subscriptions,
      [.message (ascii "news") (ascii "a"), .pmessage (ascii "n*") (ascii "news") (ascii "a")]⟩ where
  once := by
    refine List.nodup_cons.mpr ⟨fun h => ?_, List.nodup_singleton _⟩
    cases List.mem_singleton.mp h
  all message := by
    have hchannel : ascii "news" ∈ subscriptions.channels := by
      rw [hchannels]
      exact Finset.mem_singleton_self _
    have hpattern : ascii "n*" ∈ subscriptions.patterns := by
      rw [hpatterns]
      exact Finset.mem_singleton_self _
    have hkeyword : keyword (ascii "PUBLISH") = ascii "PUBLISH" := by decide
    constructor
    · intro h
      rcases List.mem_cons.mp h with rfl | h
      · exact ⟨⟨_, rfl, hkeyword⟩, hchannel, by rintro ⟨⟩⟩
      · rw [List.mem_singleton.mp h]
        exact ⟨⟨_, rfl, hkeyword⟩, hpattern, fun _ => by decide⟩
    · rintro ⟨⟨word, hcommand, -⟩, hkey, -⟩
      cases message with
      | message channel text =>
        cases hcommand
        exact .head _
      | pmessage pattern channel text =>
        cases hcommand
        have hkey : pattern ∈ subscriptions.patterns := hkey
        rw [hpatterns] at hkey
        rw [Finset.mem_singleton.mp hkey]
        exact .tail _ (.head _)

theorem possible_dispatch :
    (machine Exchange.parity startsWith Client.silent fun _ => pure ()).Possible (new {} {} "" "")
      dispatch := by
  have hanswer (verb key : Bytes) (n : Int) (hverb : verb.length < 20) (hkey : key.length < 20)
      (hn : 0 ≤ n ∧ n < 20) :
      (Value.array [.bulkString verb, .bulkString key, .integer n]).WellFormed := by
    simp only [Value.WellFormed, Value.AllWellFormed]
    refine ⟨show 3 < 2 ^ 63 by decide, ?_, ?_, ?_, trivial⟩ <;> omega
  have hmessage : (Push.message (ascii "news") (ascii "a")).value.WellFormed := by
    simp only [Push.value, Value.WellFormed, Value.AllWellFormed]
    exact ⟨show 3 < 2 ^ 63 by decide, by decide, by decide, by decide, trivial⟩
  have hpmessage : (Push.pmessage (ascii "n*") (ascii "news") (ascii "a")).value.WellFormed := by
    simp only [Push.value, Value.WellFormed, Value.AllWellFormed]
    exact ⟨show 4 < 2 ^ 63 by decide, by decide, by decide, by decide, by decide, trivial⟩
  have hconnect (p : Session.ConnectParams) (accepted : Bool) (value : Value) :
      Client.World.Event.connect (κ := Nat) p accepted ≠ .answer value := by
    rintro ⟨⟩
  have hcall (call : Client.PipelineCall Nat) (value : Value) :
      Client.World.Event.call call ≠ .answer value := by
    rintro ⟨⟩
  exact .intro ⟨rfl, trivial⟩ <| .intro ⟨rfl, trivial⟩ <| .intro ⟨rfl, trivial⟩ <|
    .intro ⟨rfl, trivial⟩ <|
    .intro ⟨rfl, by decide +kernel, hanswer _ _ _ (by decide) (by decide) (by decide),
      by decide +kernel⟩ <|
    .intro ⟨rfl, by decide +kernel, hanswer _ _ _ (by decide) (by decide) (by decide),
      by decide +kernel⟩ <|
    .intro ⟨rfl, hconnect _ _, trivial⟩ <| .intro ⟨rfl, hcall _, trivial⟩ <|
    .intro ⟨rfl, hcall _, trivial⟩ <| .intro ⟨rfl, trivial⟩ <|
    .intro ⟨show _ = true by decide +kernel,
      ⟨[ascii "PUBLISH", ascii "news", ascii "a"], by decide +kernel,
        complete_dispatch (by decide +kernel) (by decide +kernel)⟩,
      .intro ⟨by decide +kernel, hmessage, by decide +kernel⟩ <|
        .intro ⟨by decide +kernel, hpmessage, by decide +kernel⟩ trivial⟩ <|
    .intro ⟨rfl, by decide +kernel, by decide +kernel⟩ trivial

theorem published_heard_dispatch :
    let x := (machine Exchange.parity startsWith Client.silent fun _ => pure ()).run
      (new {} {} "" "") dispatch
    x.record.map Publication.command = x.publisher.executed ∧
      x.publisher.executed.Subperm (Client.commandsOf x.publisher.world.client.pushed) ∧
      (∀ p ∈ x.record, p.Complete startsWith) ∧
      ∃ passed, passed.Sublist (x.record.flatMap Publication.messages) ∧
        List.Forall₂ (fun m call => call.2 = m.text ∧
          Broadcast.Given (subscriberEvents dispatch) m.table m.key call.1) passed
          x.subscriber.subscriber.heard :=
  published_heard Exchange.reticent_silent (fun _ _ => rfl) {} {} "" "" possible_dispatch

/-- When the connection of the subscriber is open and no byte is under way on it, what was heard
on it is made of the messages of the commands carried out since it was opened. None of those is
missing whose channel or pattern the user never unsubscribes from: it was heard once for each such
subscription of the connection that it was addressed to. -/
theorem published_complete (hn : Reticent notify) (hn' : Silent notify')
    (sentinel sentinel' : Sentinel) (what what' : String) {events : List (Event κ μ)}
    (h : (machine server glob notify notify').Possible (new sentinel sentinel' what what') events) :
    let x := (machine server glob notify notify').run (new sentinel sentinel' what what') events
    x.subscriber.subscriber.client.isConnected = true → x.subscriber.inFlight = [] →
      (∀ p ∈ x.record, p.Complete glob) ∧
      Relays (fun m call => call.2 = m.text ∧
          Broadcast.Given (subscriberEvents events) m.table m.key call.1)
        (fun m => Broadcast.Kept (subscriberEvents events) m.table m.key)
        ((x.record.drop x.opened).flatMap Publication.messages) x.subscriber.heardHere := by
  have hx := sound_run hn hn' sentinel sentinel' what what' h
  generalize (machine server glob notify notify').run (new sentinel sentinel' what what') events = x
    at hx
  dsimp only
  intro hc hinFlight
  refine ⟨hx.complete, ?_⟩
  rcases hx.subscriber.link with hshut | hopen
  · exact absurd (hc.symm.trans hshut.closed) Bool.noConfusion
  · rw [← hx.letters, ← hopen.arrived_all hinFlight]
    exact hopen.relayed

theorem published_complete_dispatch :
    let x := (machine Exchange.parity startsWith Client.silent fun _ => pure ()).run
      (new {} {} "" "") dispatch
    (∀ p ∈ x.record, p.Complete startsWith) ∧
      Relays (fun m call => call.2 = m.text ∧
          Broadcast.Given (subscriberEvents dispatch) m.table m.key call.1)
        (fun m => Broadcast.Kept (subscriberEvents dispatch) m.table m.key)
        ((x.record.drop x.opened).flatMap Publication.messages) x.subscriber.heardHere :=
  published_complete Exchange.reticent_silent (fun _ _ => rfl) {} {} "" "" possible_dispatch
    (by decide +kernel) (by decide +kernel)

end PubSub

end CppRedis
