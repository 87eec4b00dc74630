import CppRedis.LockedClient
import CppRedis.Mirror

/-!
# The callbacks of a subscriber and its mutexes

The functions of `subscriber` with their `lock_guard`s, as those of `client` are. The
callback of an `AUTH` runs with nothing held, acknowledgement and message callbacks with the
mutex of their table locked, and the connect callbacks of a reconnection with both.

`callbacks_unlocked_iff`: a run of a client or of a subscriber calls no callback under a
mutex if and only if it calls none of the last kinds.
-/

namespace CppRedis

open Text Procedure

namespace Subscriber

/-- A subscriber, with its mutexes. -/
abbrev Locked (κ : Type) :=
  Guarded Mutex (Subscriber κ)

/-- The mutex of a table. -/
def Table.mutex : Table → Mutex
  | .channels => .subscribedChannels
  | .patterns => .psubscribedChannels

namespace Locked

open Guarded (inner lockGuard Erases Clear Unlocked)

variable {κ : Type}

/-- `subscribe`. -/
def subscribe (channel : Bytes) (callback acknowledgement : Option κ) :
    EStateM Fault (Locked κ) Unit :=
  lockGuard .subscribedChannels
    (inner.zoom (modify (Subscriber.subscribe channel callback acknowledgement)))

/-- `psubscribe`. -/
def psubscribe (pattern : Bytes) (callback acknowledgement : Option κ) :
    EStateM Fault (Locked κ) Unit :=
  lockGuard .psubscribedChannels
    (inner.zoom (modify (Subscriber.psubscribe pattern callback acknowledgement)))

/-- `unsubscribe`. -/
def unsubscribe (channel : Bytes) : EStateM Fault (Locked κ) Unit :=
  lockGuard .subscribedChannels (inner.zoom (modify (Subscriber.unsubscribe channel)))

/-- `punsubscribe`. -/
def punsubscribe (pattern : Bytes) : EStateM Fault (Locked κ) Unit :=
  lockGuard .psubscribedChannels (inner.zoom (modify (Subscriber.punsubscribe pattern)))

/-- A public function, or a part of `connect`, in which the connect callback is called. The
others lock nothing. -/
inductive Public (g : Locked κ) : Locked κ → Prop
  | session {t : Session} (h : Session.Call g.object.toSession t) :
      Public g (inner.set (Subscriber.session.set t g.object) g)
  | told : Public g g.called
  | auth (password : Bytes) (callback : Option κ) :
      Public g (inner.set (g.object.auth password callback) g)
  | subscribe (channel : Bytes) (callback acknowledgement : Option κ) :
      Public g (after (subscribe channel callback acknowledgement) g)
  | psubscribe (pattern : Bytes) (callback acknowledgement : Option κ) :
      Public g (after (psubscribe pattern callback acknowledgement) g)
  | unsubscribe (channel : Bytes) : Public g (after (unsubscribe channel) g)
  | punsubscribe (pattern : Bytes) : Public g (after (punsubscribe pattern) g)
  | commit : Public g (inner.set (after Subscriber.commit g.object) g)
  | disconnect : Public g (inner.set g.object.disconnect g)

/-- What a thread of the user does, in a callback or elsewhere: it calls public functions. -/
structure Program (κ : Type) where
  run : EStateM Fault (Locked κ) Unit
  calls : Follows Public run

/-- A callback of the user is called. -/
def invoke (invocation : Invocation κ) (user : EStateM Fault (Locked κ) Unit) :
    EStateM Fault (Locked κ) Unit := do
  modify (inner.update fun s => { s with invoked := s.invoked ++ [invocation] })
  Guarded.callback user

/-- `call_acknowledgement_callback`. -/
def callAcknowledgementCallback (user : EStateM Fault (Locked κ) Unit) (channel : Bytes)
    (table : Table) (nbChans : Int) : EStateM Fault (Locked κ) Unit :=
  lockGuard table.mutex do
    match (table.entries (← get).object)[channel]? with
    | none => pure ()
    | some it =>
      match it.acknowledgementCallback with
      | some callback => invoke (.acknowledgement callback nbChans) user
      | none => pure ()

/-- `handle_acknowledgement_reply`. -/
def handleAcknowledgementReply (user : EStateM Fault (Locked κ) Unit) (reply : List Reply) :
    EStateM Fault (Locked κ) Unit :=
  match reply with
  | [title, channel, nbChans] =>
    match title.asString, channel.asString, nbChans.asInteger with
    | .ok title, .ok channel, .ok nbChans =>
      if title = ascii "subscribe" then
        callAcknowledgementCallback user channel .channels nbChans
      else if title = ascii "psubscribe" then
        callAcknowledgementCallback user channel .patterns nbChans
      else pure ()
    | _, _, _ => pure ()
  | _ => pure ()

/-- The end of `handle_subscribe_reply` and of `handle_psubscribe_reply`. -/
def callMessageCallback (user : EStateM Fault (Locked κ) Unit) (key channel message : Bytes)
    (table : Table) : EStateM Fault (Locked κ) Unit :=
  lockGuard table.mutex do
    match (table.entries (← get).object)[key]? with
    | none => pure ()
    | some it =>
      match it.subscribeCallback with
      | some callback => invoke (.message callback channel message) user
      | none => throw (.stdException "bad_function_call")

/-- `handle_subscribe_reply`. -/
def handleSubscribeReply (user : EStateM Fault (Locked κ) Unit) (reply : List Reply) :
    EStateM Fault (Locked κ) Unit :=
  match reply with
  | [title, channel, message] =>
    match title.asString, channel.asString, message.asString with
    | .ok title, .ok channel, .ok message =>
      if title = ascii "message" then callMessageCallback user channel channel message .channels
      else pure ()
    | _, _, _ => pure ()
  | _ => pure ()

/-- `handle_psubscribe_reply`. -/
def handlePsubscribeReply (user : EStateM Fault (Locked κ) Unit) (reply : List Reply) :
    EStateM Fault (Locked κ) Unit :=
  match reply with
  | [title, pchannel, channel, message] =>
    match title.asString, pchannel.asString, channel.asString, message.asString with
    | .ok title, .ok pchannel, .ok channel, .ok message =>
      if title = ascii "pmessage" then callMessageCallback user pchannel channel message .patterns
      else pure ()
    | _, _, _, _ => pure ()
  | _ => pure ()

/-- A reply that is no array. Nothing is locked. -/
def handleAuthReply (user : EStateM Fault (Locked κ) Unit) (reply : Reply) :
    EStateM Fault (Locked κ) Unit := do
  match (← get).object.authReplyCallback with
  | none => pure ()
  | some callback =>
    match callback with
    | .user callback => invoke (.auth callback reply) user
    | .reAuth => pure ()
    modify (inner.update fun s => { s with authReplyCallback := none })

/-- `connection_receive_handler`. -/
def connectionReceiveHandler (user : EStateM Fault (Locked κ) Unit) (reply : Reply) :
    EStateM Fault (Locked κ) Unit :=
  match reply.asArray with
  | .error _ => handleAuthReply user reply
  | .ok array =>
    match array with
    | [_, _, last] =>
      if last.isInteger then handleAcknowledgementReply user array
      else if last.isString then handleSubscribeReply user array
      else pure ()
    | [_, _, _, _] => handlePsubscribeReply user array
    | _ => pure ()

/-- The owner of the session. -/
def owner (notify : Notification → EStateM Fault (Locked κ) Unit) : Owner (Locked κ) :=
  (Subscriber.owner fun _ => pure ()).guarded notify

/-- `connection_disconnection_handler`. -/
def connectionDisconnectionHandler (notify : Notification → EStateM Fault (Locked κ) Unit)
    (others : Locked κ → Locked κ) (attempts : List Attempt) : EStateM Fault (Locked κ) Bool :=
  (owner notify).lockingDisconnectionHandler [.subscribedChannels, .psubscribedChannels] others
    attempts

/-! ## The subscriber alone -/

section Erases

variable {user : EStateM Fault (Locked κ) Unit} {user' : EStateM Fault (Subscriber κ) Unit}

theorem invoke_erases (h : Erases user user') (invocation : Invocation κ) :
    Erases (invoke invocation user) (Subscriber.invoke invocation user') :=
  .bind (.modify fun _ => rfl) fun _ => .callback h

/-- The table is read behind the lock. -/
theorem callAcknowledgementCallback_erases (h : Erases user user') (channel : Bytes) (table : Table)
    (nbChans : Int) (g : Locked κ) :
    Guarded.forget (callAcknowledgementCallback user channel table nbChans g) =
      Subscriber.callAcknowledgementCallback user' channel (table.entries g.object) nbChans
        g.object := by
  refine (Guarded.forget_scope _ g).trans ?_
  rw [modify_bind, get_bind, Guarded.lock_object]
  unfold Subscriber.callAcknowledgementCallback
  cases (table.entries g.object)[channel]? with
  | none => rfl
  | some it =>
    obtain ⟨subscribeCallback, acknowledgementCallback⟩ := it
    cases acknowledgementCallback with
    | none => rfl
    | some callback => exact invoke_erases h _ (g.lock table.mutex)

theorem callMessageCallback_erases (h : Erases user user') (key channel message : Bytes)
    (table : Table) (g : Locked κ) :
    Guarded.forget (callMessageCallback user key channel message table g) =
      Subscriber.callMessageCallback user' key channel message (table.entries g.object) g.object := by
  refine (Guarded.forget_scope _ g).trans ?_
  rw [modify_bind, get_bind, Guarded.lock_object]
  unfold Subscriber.callMessageCallback
  cases (table.entries g.object)[key]? with
  | none => rfl
  | some it =>
    obtain ⟨subscribeCallback, acknowledgementCallback⟩ := it
    cases subscribeCallback with
    | none => rfl
    | some callback => exact invoke_erases h _ (g.lock table.mutex)

theorem handleAcknowledgementReply_erases (h : Erases user user') (reply : List Reply) :
    Erases (handleAcknowledgementReply user reply)
      (Subscriber.handleAcknowledgementReply user' reply) := by
  intro g
  rcases reply with _ | ⟨title, _ | ⟨channel, _ | ⟨nbChans, _ | ⟨more, reply⟩⟩⟩⟩
  all_goals try rfl
  unfold handleAcknowledgementReply Subscriber.handleAcknowledgementReply
  dsimp only
  rcases title.asString with e | title
  · rfl
  rcases channel.asString with e | channel
  · rfl
  rcases nbChans.asInteger with e | nbChans
  · rfl
  dsimp only
  rw [get_bind]
  split
  · exact callAcknowledgementCallback_erases h channel .channels nbChans g
  · split
    · exact callAcknowledgementCallback_erases h channel .patterns nbChans g
    · rfl

theorem handleSubscribeReply_erases (h : Erases user user') (reply : List Reply) :
    Erases (handleSubscribeReply user reply) (Subscriber.handleSubscribeReply user' reply) := by
  intro g
  rcases reply with _ | ⟨title, _ | ⟨channel, _ | ⟨message, _ | ⟨more, reply⟩⟩⟩⟩
  all_goals try rfl
  unfold handleSubscribeReply Subscriber.handleSubscribeReply
  dsimp only
  rcases title.asString with e | title
  · rfl
  rcases channel.asString with e | channel
  · rfl
  rcases message.asString with e | message
  · rfl
  dsimp only
  split
  · exact callMessageCallback_erases h channel channel message .channels g
  · rfl

theorem handlePsubscribeReply_erases (h : Erases user user') (reply : List Reply) :
    Erases (handlePsubscribeReply user reply) (Subscriber.handlePsubscribeReply user' reply) := by
  intro g
  rcases reply with _ | ⟨title, _ | ⟨pchannel, _ | ⟨channel, _ | ⟨message, _ | ⟨more, reply⟩⟩⟩⟩⟩
  all_goals try rfl
  unfold handlePsubscribeReply Subscriber.handlePsubscribeReply
  dsimp only
  rcases title.asString with e | title
  · rfl
  rcases pchannel.asString with e | pchannel
  · rfl
  rcases channel.asString with e | channel
  · rfl
  rcases message.asString with e | message
  · rfl
  dsimp only
  split
  · exact callMessageCallback_erases h pchannel channel message .patterns g
  · rfl

theorem handleAuthReply_erases (h : Erases user user') (reply : Reply) :
    Erases (handleAuthReply user reply) (Subscriber.handleAuthReply user' reply) := by
  refine .get_bind fun g => ?_
  cases g.object.authReplyCallback with
  | none => exact .pure _
  | some callback =>
    cases callback with
    | user callback =>
      refine .bind (invoke_erases h _) fun _ => ?_
      exact .modify fun _ => rfl
    | reAuth => exact .modify fun _ => rfl

theorem connectionReceiveHandler_erases (h : Erases user user') (reply : Reply) :
    Erases (connectionReceiveHandler user reply)
      (Subscriber.connectionReceiveHandler (some user') reply) := by
  unfold connectionReceiveHandler Subscriber.connectionReceiveHandler
  rcases reply.asArray with e | array
  · exact handleAuthReply_erases h reply
  · rcases array with _ | ⟨a, _ | ⟨b, _ | ⟨c, _ | ⟨d, _ | ⟨e, array⟩⟩⟩⟩⟩
    · exact .pure _
    · exact .pure _
    · exact .pure _
    · exact .ite (handleAcknowledgementReply_erases h _)
        (.ite (handleSubscribeReply_erases h _) (.pure _))
    · exact handlePsubscribeReply_erases h _
    · exact .pure _

theorem connectionDisconnectionHandler_erases
    {notify : Notification → EStateM Fault (Locked κ) Unit}
    {notify' : Notification → EStateM Fault (Subscriber κ) Unit}
    (h : ∀ n, Erases (notify n) (notify' n))
    {others : Locked κ → Locked κ} {others' : Subscriber κ → Subscriber κ}
    (hothers : ∀ g, (others g).object = others' g.object) (attempts : List Attempt) :
    Erases (connectionDisconnectionHandler notify others attempts)
      (Subscriber.connectionDisconnectionHandler notify' others' attempts) :=
  Owner.lockingDisconnectionHandler_erases (o := Subscriber.owner notify') h _ hothers attempts

end Erases

/-! ## What is held -/

/-- The public functions lock no mutex but their own, which they unlock again. -/
theorem Public.kept {I : Locked κ → Prop} (hI : Guarded.Robust I) {g g' : Locked κ}
    (h : Public g g') : Keeping I g g' := by
  intro hg
  cases h with
  | session h => exact hI.set hg _
  | told => exact hI.called hg
  | auth password callback => exact hI.set hg _
  | subscribe channel callback acknowledgement => exact (hI.lockGuard _ _).keeping hg
  | psubscribe pattern callback acknowledgement => exact (hI.lockGuard _ _).keeping hg
  | unsubscribe channel => exact (hI.lockGuard _ _).keeping hg
  | punsubscribe pattern => exact (hI.lockGuard _ _).keeping hg
  | commit => exact hI.set hg _
  | disconnect => exact hI.set hg _

theorem Program.kept {I : Locked κ → Prop} (hI : Guarded.Robust I) (p : Program κ) :
    Follows (Keeping I) p.run :=
  p.calls.mono fun _ _ h => .single (h.kept hI)

theorem Program.clear (p : Program κ) : Follows (Keeping Clear) p.run :=
  p.kept Clear.robust

theorem Program.spoiled (p : Program κ) : Follows (Keeping Guarded.Spoiled) p.run :=
  p.kept Guarded.Spoiled.robust

/-- A reply for which an acknowledgement or a message callback is registered. -/
inductive Reaches (s : Subscriber κ) (reply : Reply) : Prop
  | acknowledgement {title key nbChans : Reply} {k : Bytes} {n : Int} {holder : CallbackHolder κ}
      {callback : κ} (table : Table) (shape : reply.asArray = .ok [title, key, nbChans])
      (htitle : title.asString = .ok table.title) (hkey : key.asString = .ok k)
      (hnbChans : nbChans.asInteger = .ok n) (hentry : (table.entries s)[k]? = some holder)
      (hcallback : holder.acknowledgementCallback = some callback)
  | message {title channel message : Reply} {ch m : Bytes} {holder : CallbackHolder κ}
      {callback : κ} (shape : reply.asArray = .ok [title, channel, message])
      (htitle : title.asString = .ok (ascii "message")) (hchannel : channel.asString = .ok ch)
      (hmessage : message.asString = .ok m) (hentry : s.subscribedChannels[ch]? = some holder)
      (hcallback : holder.subscribeCallback = some callback)
  | pmessage {title pattern channel message : Reply} {p ch m : Bytes} {holder : CallbackHolder κ}
      {callback : κ} (shape : reply.asArray = .ok [title, pattern, channel, message])
      (htitle : title.asString = .ok (ascii "pmessage")) (hpattern : pattern.asString = .ok p)
      (hchannel : channel.asString = .ok ch) (hmessage : message.asString = .ok m)
      (hentry : s.psubscribedChannels[p]? = some holder)
      (hcallback : holder.subscribeCallback = some callback)

section Clear

variable {user : EStateM Fault (Locked κ) Unit} {g : Locked κ}

/-- Where the entry has no acknowledgement callback, only the mutex is locked. -/
theorem callAcknowledgementCallback_clear (hg : g.Clear) {channel : Bytes} {table : Table}
    (h : ∀ holder, (table.entries g.object)[channel]? = some holder →
      holder.acknowledgementCallback = none) (nbChans : Int) :
    Clear (after (callAcknowledgementCallback user channel table nbChans) g) := by
  refine hg.scope ?_
  rw [after_modify_bind, after_get_bind, Guarded.lock_object]
  cases hentry : (table.entries g.object)[channel]? with
  | none => exact hg.lock _
  | some it =>
    dsimp only
    rw [h it hentry]
    exact hg.lock _

/-- Where the entry has no message callback, the call of it throws. -/
theorem callMessageCallback_clear (hg : g.Clear) {key : Bytes} {table : Table}
    (h : ∀ holder, (table.entries g.object)[key]? = some holder → holder.subscribeCallback = none)
    (channel message : Bytes) :
    Clear (after (callMessageCallback user key channel message table) g) := by
  refine hg.scope ?_
  rw [after_modify_bind, after_get_bind, Guarded.lock_object]
  cases hentry : (table.entries g.object)[key]? with
  | none => exact hg.lock _
  | some it =>
    dsimp only
    rw [h it hentry]
    exact hg.lock _

theorem handleAcknowledgementReply_clear (hg : g.Clear) {reply : Reply} {array : List Reply}
    (hreply : reply.asArray = .ok array) (h : ¬ Reaches g.object reply) :
    Clear (after (handleAcknowledgementReply user array) g) := by
  rcases array with _ | ⟨title, _ | ⟨channel, _ | ⟨nbChans, _ | ⟨more, array⟩⟩⟩⟩
  all_goals try exact hg
  unfold handleAcknowledgementReply
  dsimp only
  cases ht : title.asString with
  | error e => exact hg
  | ok t =>
    cases hc : channel.asString with
    | error e => exact hg
    | ok c =>
      cases hn : nbChans.asInteger with
      | error e => exact hg
      | ok n =>
        -- the entry of the table that the title names has no callback
        have hnone (table : Table) (htitle : t = table.title) (holder : CallbackHolder κ)
            (hentry : (table.entries g.object)[c]? = some holder) :
            holder.acknowledgementCallback = none := by
          cases hcallback : holder.acknowledgementCallback with
          | none => rfl
          | some callback =>
            exact absurd (.acknowledgement table hreply (htitle ▸ ht) hc hn hentry hcallback) h
        dsimp only
        split
        · next htitle => exact callAcknowledgementCallback_clear hg (hnone .channels htitle) n
        · split
          · next htitle => exact callAcknowledgementCallback_clear hg (hnone .patterns htitle) n
          · exact hg

theorem handleSubscribeReply_clear (hg : g.Clear) {reply : Reply} {array : List Reply}
    (hreply : reply.asArray = .ok array) (h : ¬ Reaches g.object reply) :
    Clear (after (handleSubscribeReply user array) g) := by
  rcases array with _ | ⟨title, _ | ⟨channel, _ | ⟨message, _ | ⟨more, array⟩⟩⟩⟩
  all_goals try exact hg
  unfold handleSubscribeReply
  dsimp only
  cases ht : title.asString with
  | error e => exact hg
  | ok t =>
    cases hc : channel.asString with
    | error e => exact hg
    | ok c =>
      cases hm : message.asString with
      | error e => exact hg
      | ok m =>
        dsimp only
        split
        · next htitle =>
          refine callMessageCallback_clear hg (fun holder hentry => ?_) c m
          cases hcallback : holder.subscribeCallback with
          | none => rfl
          | some callback =>
            exact absurd (.message hreply (htitle ▸ ht) hc hm hentry hcallback) h
        · exact hg

theorem handlePsubscribeReply_clear (hg : g.Clear) {reply : Reply} {array : List Reply}
    (hreply : reply.asArray = .ok array) (h : ¬ Reaches g.object reply) :
    Clear (after (handlePsubscribeReply user array) g) := by
  rcases array with _ | ⟨title, _ | ⟨pattern, _ | ⟨channel, _ | ⟨message, _ | ⟨more, array⟩⟩⟩⟩⟩
  all_goals try exact hg
  unfold handlePsubscribeReply
  dsimp only
  cases ht : title.asString with
  | error e => exact hg
  | ok t =>
    cases hp : pattern.asString with
    | error e => exact hg
    | ok p =>
      cases hc : channel.asString with
      | error e => exact hg
      | ok c =>
        cases hm : message.asString with
        | error e => exact hg
        | ok m =>
          dsimp only
          split
          · next htitle =>
            refine callMessageCallback_clear hg (fun holder hentry => ?_) c m
            cases hcallback : holder.subscribeCallback with
            | none => rfl
            | some callback =>
              exact absurd (.pmessage hreply (htitle ▸ ht) hp hc hm hentry hcallback) h
          · exact hg

theorem handleAuthReply_clear (user : Program κ) (reply : Reply) :
    Follows (Keeping Clear) (handleAuthReply user.run reply) := by
  refine .bind .get fun g => ?_
  cases g.object.authReplyCallback with
  | none => exact .pure _
  | some callback =>
    cases callback with
    | user callback =>
      refine .bind (.bind (.modify fun _ hg => hg.set _) fun _ => Clear.callback user.clear) fun _ => ?_
      exact .modify fun _ hg => hg.set _
    | reAuth => exact .modify fun _ hg => hg.set _

/-- A reply for which no acknowledgement and no message callback is registered. -/
theorem connectionReceiveHandler_clear (hg : g.Clear) (user : Program κ) {reply : Reply}
    (h : ¬ Reaches g.object reply) : Clear (after (connectionReceiveHandler user.run reply) g) := by
  unfold connectionReceiveHandler
  cases hreply : reply.asArray with
  | error e => exact (handleAuthReply_clear user reply).keeping hg
  | ok array =>
    rcases array with _ | ⟨a, _ | ⟨b, _ | ⟨c, _ | ⟨d, _ | ⟨e, array⟩⟩⟩⟩⟩
    · exact hg
    · exact hg
    · exact hg
    · dsimp only
      split
      · exact handleAcknowledgementReply_clear hg hreply h
      · split
        · exact handleSubscribeReply_clear hg hreply h
        · exact hg
    · exact handlePsubscribeReply_clear hg hreply h
    · exact hg

end Clear

section Spoiled

variable {user : EStateM Fault (Locked κ) Unit} (huser : Follows (Keeping Guarded.Spoiled) user)
include huser

/-- The callback of the entry is called under the mutex of its table. -/
theorem callAcknowledgementCallback_spoiled {g : Locked κ} {channel : Bytes} {table : Table}
    {holder : CallbackHolder κ} {callback : κ}
    (hentry : (table.entries g.object)[channel]? = some holder)
    (hcallback : holder.acknowledgementCallback = some callback) (nbChans : Int) :
    Guarded.Spoiled (after (callAcknowledgementCallback user channel table nbChans) g) := by
  refine .of_scope ?_
  rw [after_modify_bind, after_get_bind, Guarded.lock_object, hentry]
  dsimp only
  rw [hcallback]
  exact Guarded.callback_spoiled huser (List.cons_ne_nil _ _)

theorem callMessageCallback_spoiled {g : Locked κ} {key : Bytes} {table : Table}
    {holder : CallbackHolder κ} {callback : κ}
    (hentry : (table.entries g.object)[key]? = some holder)
    (hcallback : holder.subscribeCallback = some callback) (channel message : Bytes) :
    Guarded.Spoiled (after (callMessageCallback user key channel message table) g) := by
  refine .of_scope ?_
  rw [after_modify_bind, after_get_bind, Guarded.lock_object, hentry]
  dsimp only
  rw [hcallback]
  exact Guarded.callback_spoiled huser (List.cons_ne_nil _ _)

/-- A reply for which a callback is registered calls it under a mutex. -/
theorem connectionReceiveHandler_spoiled {g : Locked κ} {reply : Reply}
    (h : Reaches g.object reply) :
    Guarded.Spoiled (after (connectionReceiveHandler user reply) g) := by
  unfold connectionReceiveHandler
  cases h with
  | acknowledgement table shape htitle hkey hnbChans hentry hcallback =>
    rw [shape]
    dsimp only
    rw [if_pos (asInteger_eq_ok hnbChans)]
    unfold handleAcknowledgementReply
    dsimp only
    rw [htitle, hkey, hnbChans]
    dsimp only
    cases table with
    | channels =>
      rw [if_pos (show Table.channels.title = ascii "subscribe" from rfl)]
      exact callAcknowledgementCallback_spoiled huser hentry hcallback _
    | patterns =>
      rw [if_neg (show Table.patterns.title ≠ ascii "subscribe" by decide),
        if_pos (show Table.patterns.title = ascii "psubscribe" from rfl)]
      exact callAcknowledgementCallback_spoiled huser hentry hcallback _
  | message shape htitle hchannel hmessage hentry hcallback =>
    have hstring := asString_eq_ok hmessage
    rw [shape]
    dsimp only
    rw [if_neg fun hinteger => Bool.false_ne_true
      ((not_isString_of_isInteger hinteger).symm.trans hstring), if_pos hstring]
    unfold handleSubscribeReply
    dsimp only
    rw [htitle, hchannel, hmessage]
    dsimp only
    rw [if_pos rfl]
    have hentry : (Table.channels.entries g.object)[_]? = some _ := hentry
    exact callMessageCallback_spoiled huser hentry hcallback _ _
  | pmessage shape htitle hpattern hchannel hmessage hentry hcallback =>
    rw [shape]
    unfold handlePsubscribeReply
    dsimp only
    rw [htitle, hpattern, hchannel, hmessage]
    dsimp only
    rw [if_pos rfl]
    have hentry : (Table.patterns.entries g.object)[_]? = some _ := hentry
    exact callMessageCallback_spoiled huser hentry hcallback _ _

end Spoiled

/-- The end of a reconnection does not touch the connect callback. -/
theorem keepsCallback : (Subscriber.owner fun _ => pure () : Owner (Subscriber κ)).KeepsCallback where
  resume s := by
    have hauth (s : Subscriber κ) : s.reAuth.connectCallback = s.connectCallback := by
      unfold reAuth
      split <;> rfl
    have hsubscribe (s : Subscriber κ) : s.reSubscribe.connectCallback = s.connectCallback := by
      unfold reSubscribe
      rw [foldl_unprotectedSubscribe]
      dsimp only
      rw [foldl_unprotectedPsubscribe]
    show (after Subscriber.resume s).connectCallback = s.connectCallback
    rw [Subscriber.resume, after_modify_bind, after_modify_bind, Subscriber.commit, Lens.after_zoom]
    exact (hsubscribe s.reAuth).trans (hauth s)
  giveUp _ := rfl

/-! ## Runs -/

/-- What happens to a subscriber: a thread of the user calls it, its connection changes, or
one of its two handlers is called. -/
inductive Event (κ : Type)
  | call (program : Program κ)
  | connection (r : RedisConnection)
  | reply (reply : Reply) (user : Program κ)
  | disconnected (others : Program κ) (attempts : List Attempt)

variable (notify : Notification → Program κ)

/-- The program of the connect callback. -/
def told (n : Notification) : EStateM Fault (Locked κ) Unit :=
  (notify n).run

def step (g : Locked κ) : Event κ → Locked κ
  | .call program => after program.run g
  | .connection r => (inner.comp Subscriber.connection).set r g
  | .reply reply user => after (connectionReceiveHandler user.run reply) g
  | .disconnected others attempts =>
    after (connectionDisconnectionHandler (told notify) (after others.run) attempts) g

/-- A subscriber with its mutexes, and what happens to it. Each event is the work of a thread
that holds nothing at first. -/
def machine : Machine (Locked κ) (Event κ) :=
  ⟨fun _ _ => True, step notify⟩

theorem calls_public : (owner (told notify)).Calls Public where
  session _ _ h := .session h
  notify n := .bind (.modify fun _ => .told) fun _ => (notify n).calls

/-- A call of `connect`, by a thread that holds nothing. -/
def connecting (p : Session.ConnectParams) (accepted : Bool) : Program κ :=
  ⟨(owner (told notify)).connect p accepted, (calls_public notify).connect_follows p accepted⟩

/-- A call of `connect` by the name of the master. -/
def connectingByName (name : Bytes) (p : Session.ConnectParams) (lookup : Lookup)
    (accepted : Bool) : Program κ :=
  ⟨(owner (told notify)).connectByName
      "cpp_redis::subscriber::connect() could not find master for name " name p lookup accepted,
    (calls_public notify).connectByName_follows _ name p lookup accepted⟩

/-- An event happens. -/
def Happens (g g' : Locked κ) : Prop :=
  ∃ e, g' = step notify g e

theorem handlersWithin_happens :
    HandlersWithin (inner.comp Subscriber.connection) (Happens notify) where
  parse _ _ := ⟨.connection _, rfl⟩
  asyncRead := .zoom fun g => ⟨.connection (after _ ((inner.comp Subscriber.connection).get g)), rfl⟩
  clear _ := ⟨.connection _, rfl⟩

/-- A read, with the callbacks for its replies, is a run of events. -/
theorem receive_happens (result : ReadResult) (users : List (Program κ)) (others : Program κ)
    (attempts : List Attempt) :
    Follows (Happens notify) (tcpClientReceiveHandler (inner.comp Subscriber.connection)
      (fun user => connectionReceiveHandler (user.elim (pure ()) Program.run))
      (connectionDisconnectionHandler (told notify) (after others.run) attempts) result users) := by
  refine (handlersWithin_happens notify).tcpClientReceiveHandler_follows ?_ ?_ result
  · intro user _ reply g
    cases user with
    | none => exact .single ⟨.reply reply ⟨pure (), .pure _⟩, rfl⟩
    | some user => exact .single ⟨.reply reply user, rfl⟩
  · exact fun g => .single ⟨.disconnected others attempts, rfl⟩

/-- So is what follows the loss of a connection. -/
theorem drop_happens (others : Program κ) (attempts : List Attempt) :
    Follows (Happens notify) (tcpClientDisconnectionHandler (inner.comp Subscriber.connection)
      (connectionDisconnectionHandler (told notify) (after others.run) attempts)) :=
  (handlersWithin_happens notify).tcpClientDisconnectionHandler_follows
    fun _ => .single ⟨.disconnected others attempts, rfl⟩

/-- No acknowledgement and no message callback is called, and no connect callback by a
handler that has locked the mutexes. -/
def Keeps (g : Locked κ) : Event κ → Prop
  | .reply reply _ => ¬ Reaches g.object reply
  | .disconnected others attempts =>
    (owner (told notify)).Harmless (after others.run) attempts g
  | _ => True

theorem step_clear {g : Locked κ} (hg : g.Clear) (e : Event κ) (he : Keeps notify g e) :
    Clear (step notify g e) := by
  cases e with
  | call program => exact program.clear.keeping hg
  | connection r => exact hg.set _
  | reply reply user => exact connectionReceiveHandler_clear hg user he
  | disconnected others attempts =>
    exact Owner.lockingDisconnectionHandler_clear keepsCallback (fun n => (notify n).clear)
      (by decide) (fun _ hg => others.clear.keeping hg) hg he

/-- A step that calls nobody under a mutex. -/
theorem keeps_of_unlocked {g : Locked κ} {e : Event κ} (h : Unlocked (step notify g e)) :
    Keeps notify g e := by
  cases e with
  | reply reply user =>
    exact fun hreaches => (connectionReceiveHandler_spoiled user.spoiled hreaches).not_unlocked h
  | disconnected others attempts =>
    exact Owner.harmless_of_unlocked (fun n => (notify n).spoiled) keepsCallback
      (fun _ => ⟨_, _, rfl⟩) (List.cons_ne_nil _ _) h
  | _ => trivial

/-- A run of a subscriber calls no callback under a mutex, and none of its callbacks locks a
mutex that its thread holds, if and only if no reply reaches a callback that is registered
for it and each handler is harmless. -/
theorem always_unlocked_iff (s : Subscriber κ) (events : List (Event κ)) :
    (machine notify).Always Unlocked { object := s } events ↔
      (machine notify).Along (Keeps notify) { object := s } events :=
  Machine.always_iff_along_of_kept (fun _ hg => hg.toUnlocked)
    (fun _ e hg _ he => step_clear notify hg e he) (fun _ _ _ _ h => keeps_of_unlocked notify h)
    (Machine.possible_of_enabled (fun _ _ => trivial) _ events) (.new s)

end Locked

end Subscriber

open Guarded (Unlocked)

/-- No callback of a client or of a subscriber is called under a mutex of theirs, and none
locks one that its thread holds, if and only if no reply reaches a callback of a subscriber
that is registered for it, and no handler tells the connect callback anything while it holds
its locks. -/
theorem callbacks_unlocked_iff {κ : Type} (onClient : Notification → Client.Locked.Program κ)
    (c : Client κ) (clientEvents : List (Client.Locked.Event κ))
    (onSubscriber : Notification → Subscriber.Locked.Program κ) (s : Subscriber κ)
    (subscriberEvents : List (Subscriber.Locked.Event κ)) :
    ((Client.Locked.machine onClient).Always Unlocked { object := c } clientEvents ↔
        (Client.Locked.machine onClient).Along (Client.Locked.Keeps onClient) { object := c }
          clientEvents) ∧
      ((Subscriber.Locked.machine onSubscriber).Always Unlocked { object := s } subscriberEvents ↔
        (Subscriber.Locked.machine onSubscriber).Along (Subscriber.Locked.Keeps onSubscriber)
          { object := s } subscriberEvents) :=
  ⟨Client.Locked.always_unlocked_iff onClient c clientEvents,
    Subscriber.Locked.always_unlocked_iff onSubscriber s subscriberEvents⟩

/-- A connect callback that sends a command once the client gave up. -/
def sendWhenStopped (n : Notification) : Client.Locked.Program Nat :=
  if n.state = .stopped then ⟨Client.Locked.send [ascii "PING"] none, fun _ => .single (.send _ _)⟩
  else ⟨pure (), .pure _⟩

/-- A client connects, and loses its connection. -/
def lostEvents : List (Client.Locked.Event Nat) :=
  [.call (Client.Locked.connecting sendWhenStopped
      { host := ascii "h", port := 6379, connectCallback := true } true),
    .connection { client := { dialled := [⟨ascii "h", 6379, 0⟩] }
                  replyCallback := true
                  disconnectionHandler := true },
    .disconnected ⟨pure (), .pure _⟩ []]

/-- A channel whose acknowledgement callback subscribes to another one. -/
def acknowledgedEvents : List (Subscriber.Locked.Event Nat) :=
  [.call ⟨Subscriber.Locked.subscribe (ascii "a") none (some 0), fun _ => .single (.subscribe _ _ _)⟩,
    .reply (.ofRows [.ofString (ascii "subscribe") .bulkString,
        .ofString (ascii "a") .bulkString, .ofInteger 1])
      ⟨Subscriber.Locked.subscribe (ascii "b") none none, fun _ => .single (.subscribe _ _ _)⟩]

/-- After `lostEvents` the client waits for its own mutex, and after `acknowledgedEvents` the
subscriber does. -/
theorem not_callbacks_unlocked :
    (¬ ∀ (onClient : Notification → Client.Locked.Program Nat)
        (events : List (Client.Locked.Event Nat)),
      (Client.Locked.machine onClient).Always Unlocked { object := {} } events) ∧
    ¬ ∀ (onSubscriber : Notification → Subscriber.Locked.Program Nat)
        (events : List (Subscriber.Locked.Event Nat)),
      (Subscriber.Locked.machine onSubscriber).Always Unlocked { object := { toSession := {} } }
        events := by
  constructor
  · intro h
    have hclient := (h sendWhenStopped lostEvents).2.2.2.relocked
    exact absurd hclient (by decide +kernel)
  · intro h
    have hsubscriber := (h (fun _ => ⟨pure (), .pure _⟩) acknowledgedEvents).2.2.relocked
    exact absurd hsubscriber (by decide +kernel)

end CppRedis
