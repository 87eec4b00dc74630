import CppRedis.Subscriber
import Mathlib.Data.List.Induction

/-!
# The replies of a subscriber

A subscriber looks a reply up in one of its two tables by the shape of the reply. This
module says, for every history of subscriptions and of replies of any shape, which
callback a reply runs.

* `Latest`: the entry that a history leaves for a channel or a pattern: that of the last
  subscription to it that no other call for it follows. `Tracks` says that the tables hold
  these entries and no others.
* `Runs`: the callback that a reply is for, as the format of the replies has it.
* `dispatches`: a reply runs the callback that it is for, and nothing else.
-/

namespace CppRedis

open Text Procedure

/-! ## Tables -/

theorem Subscriptions.getElem?_insert {κ : Type} (m : Subscriptions κ) (key key' : Bytes)
    (holder : CallbackHolder κ) :
    (m.insert key holder)[key']? = if key = key' then some holder else m[key']? := by
  rw [Std.TreeMap.getElem?_insert]
  simp only [Std.compare_eq_iff_eq]

theorem Subscriptions.getElem?_erase {κ : Type} (m : Subscriptions κ) (key key' : Bytes) :
    (m.erase key)[key']? = if key = key' then none else m[key']? := by
  rw [Std.TreeMap.getElem?_erase]
  simp only [Std.compare_eq_iff_eq]

/-- Erasing what is not there. -/
theorem Subscriptions.getElem?_of_not_contains {κ : Type} {m : Subscriptions κ} {key : Bytes}
    (h : m.contains key = false) : m[key]? = none := by
  rw [Std.TreeMap.contains_eq_isSome_getElem?] at h
  exact Option.not_isSome_iff_eq_none.mp (by rw [h]; exact Bool.false_ne_true)

namespace Subscriber

variable {κ : Type}

/-- The channels, or the patterns. -/
inductive Table
  | channels
  | patterns
deriving DecidableEq, Repr

/-- The table itself. -/
def Table.entries (s : Subscriber κ) : Table → Subscriptions κ
  | .channels => s.subscribedChannels
  | .patterns => s.psubscribedChannels

/-- The title of an acknowledgement. -/
def Table.title : Table → Bytes
  | .channels => ascii "subscribe"
  | .patterns => ascii "psubscribe"

theorem Table.title_injective {table table' : Table} (h : table.title = table'.title) :
    table' = table := by
  cases table <;> cases table' <;> first | rfl | exact absurd h (by decide)

/-! ## Histories -/

/-- A subscription, with a message callback that is not null, or an unsubscription. -/
inductive Op (κ : Type)
  | subscribe (table : Table) (key : Bytes) (callback : κ) (acknowledgement : Option κ)
  | unsubscribe (table : Table) (key : Bytes)

def Op.run (s : Subscriber κ) : Op κ → Subscriber κ
  | .subscribe .channels key callback acknowledgement => s.subscribe key callback acknowledgement
  | .subscribe .patterns key callback acknowledgement => s.psubscribe key callback acknowledgement
  | .unsubscribe .channels key => s.unsubscribe key
  | .unsubscribe .patterns key => s.punsubscribe key

/-- Whether it is about that entry. -/
def Op.Concerns (table : Table) (key : Bytes) : Op κ → Prop
  | .subscribe table' key' _ _ => table' = table ∧ key' = key
  | .unsubscribe table' key' => table' = table ∧ key' = key

/-- A call, or a reply that is received; the callback that it runs makes no call. -/
inductive Received (κ : Type)
  | call (op : Op κ)
  | answer (reply : Reply)

def Received.run (s : Subscriber κ) : Received κ → Subscriber κ
  | .call op => op.run s
  | .answer reply => after (connectionReceiveHandler none reply) s

def runAll (history : List (Received κ)) (s : Subscriber κ) : Subscriber κ :=
  history.foldl Received.run s

/-- The last subscription of the history, with these callbacks, that no later call is about. -/
def Latest (history : List (Received κ)) (table : Table) (key : Bytes) (callback : κ)
    (acknowledgement : Option κ) : Prop :=
  ∃ before later, history = before ++ .call (.subscribe table key callback acknowledgement) :: later ∧
    ∀ op, .call op ∈ later → ¬ op.Concerns table key

/-- The callback that a reply is for, and its arguments, where `entry` tells the entries
of the tables. Any string reply will do for a string, an error too. -/
inductive Runs (entry : Table → Bytes → κ → Option κ → Prop) (reply : Reply) : Invocation κ → Prop
  | message {title channel message : Reply} {ch m : Bytes} {callback : κ} {acknowledgement : Option κ}
      (shape : reply.asArray = .ok [title, channel, message])
      (htitle : title.asString = .ok (ascii "message")) (hchannel : channel.asString = .ok ch)
      (hmessage : message.asString = .ok m) (hentry : entry .channels ch callback acknowledgement) :
      Runs entry reply (.message callback ch m)
  | pmessage {title pattern channel message : Reply} {p ch m : Bytes} {callback : κ}
      {acknowledgement : Option κ} (shape : reply.asArray = .ok [title, pattern, channel, message])
      (htitle : title.asString = .ok (ascii "pmessage")) (hpattern : pattern.asString = .ok p)
      (hchannel : channel.asString = .ok ch) (hmessage : message.asString = .ok m)
      (hentry : entry .patterns p callback acknowledgement) :
      Runs entry reply (.message callback ch m)
  | acknowledgement {title key nbChans : Reply} {k : Bytes} {n : Int} {callback acknowledgement : κ}
      (table : Table) (shape : reply.asArray = .ok [title, key, nbChans])
      (htitle : title.asString = .ok table.title) (hkey : key.asString = .ok k)
      (hnbChans : nbChans.asInteger = .ok n) (hentry : entry table k callback (some acknowledgement)) :
      Runs entry reply (.acknowledgement acknowledgement n)

/-! ## What a call does to the tables -/

/-- Erasing a key that may be missing. -/
theorem getElem?_eraseIfContained (m : Subscriptions κ) (key key' : Bytes) :
    (if m.contains key then m.erase key else m)[key']? = if key = key' then none else m[key']? := by
  cases hm : m.contains key with
  | true => rw [if_pos rfl, Subscriptions.getElem?_erase]
  | false =>
    rw [if_neg Bool.false_ne_true]
    by_cases hkey : key = key'
    · rw [if_pos hkey, ← hkey, Subscriptions.getElem?_of_not_contains hm]
    · rw [if_neg hkey]

theorem unsubscribe_tables (key : Bytes) (s : Subscriber κ) :
    (s.unsubscribe key).subscribedChannels =
        (if s.subscribedChannels.contains key then s.subscribedChannels.erase key
          else s.subscribedChannels) ∧
      (s.unsubscribe key).psubscribedChannels = s.psubscribedChannels := by
  unfold unsubscribe
  split <;> exact ⟨rfl, rfl⟩

theorem punsubscribe_tables (key : Bytes) (s : Subscriber κ) :
    (s.punsubscribe key).psubscribedChannels =
        (if s.psubscribedChannels.contains key then s.psubscribedChannels.erase key
          else s.psubscribedChannels) ∧
      (s.punsubscribe key).subscribedChannels = s.subscribedChannels := by
  unfold punsubscribe
  split <;> exact ⟨rfl, rfl⟩

/-- A call changes the entry that it is about, and no other one. -/
theorem table_op (op : Op κ) (s : Subscriber κ) (table : Table) (key : Bytes) :
    (table.entries (op.run s))[key]? =
      match op with
      | .subscribe table' key' callback acknowledgement =>
        if table' = table ∧ key' = key then some ⟨some callback, acknowledgement⟩
        else (table.entries s)[key]?
      | .unsubscribe table' key' =>
        if table' = table ∧ key' = key then none else (table.entries s)[key]? := by
  cases op with
  | subscribe table' key' callback acknowledgement =>
    cases table' <;> cases table
    · refine (Subscriptions.getElem?_insert s.subscribedChannels key' key _).trans ?_
      simp [Table.entries]
    · rfl
    · rfl
    · refine (Subscriptions.getElem?_insert s.psubscribedChannels key' key _).trans ?_
      simp [Table.entries]
  | unsubscribe table' key' =>
    cases table' <;> cases table
    · simpa [Op.run, Table.entries, unsubscribe_tables] using getElem?_eraseIfContained _ key' key
    · simp [Op.run, Table.entries, unsubscribe_tables]
    · simp [Op.run, Table.entries, punsubscribe_tables]
    · simpa [Op.run, Table.entries, punsubscribe_tables] using getElem?_eraseIfContained _ key' key

/-! ## What a reply runs -/

/-- The entry of a table, when its message callback is not null. -/
def Holds (s : Subscriber κ) (table : Table) (key : Bytes) (callback : κ)
    (acknowledgement : Option κ) : Prop :=
  (table.entries s)[key]? = some ⟨some callback, acknowledgement⟩

/-- No message callback is null. -/
def Callable (s : Subscriber κ) : Prop :=
  ∀ (table : Table) (key : Bytes) (holder : CallbackHolder κ), (table.entries s)[key]? = some holder →
    ∃ callback, holder.subscribeCallback = some callback

/-- A subscriber after some callbacks were called. -/
def called (calls : List (Invocation κ)) (s : Subscriber κ) : Subscriber κ :=
  { s with invoked := s.invoked ++ calls }

theorem called_nil (s : Subscriber κ) : called [] s = s := by
  unfold called
  rw [List.append_nil]

theorem asString_eq_ok {r : Reply} {v : Bytes} (h : r.asString = .ok v) : r.isString = true := by
  unfold Reply.asString at h
  split at h
  · assumption
  · cases h

theorem asInteger_eq_ok {r : Reply} {n : Int} (h : r.asInteger = .ok n) : r.isInteger = true := by
  unfold Reply.asInteger at h
  split at h
  · assumption
  · cases h

/-- No reply is both. -/
theorem not_isString_of_isInteger {r : Reply} (h : r.isInteger = true) : r.isString = false := by
  obtain ⟨type, rows, strval, intval⟩ := r
  cases type <;> first | rfl | cases h

/-- The procedure returns, and has called what `P` tells, which is at most one callback. -/
def CallsExactly (p : EStateM Fault (Subscriber κ) Unit) (s : Subscriber κ)
    (P : Invocation κ → Prop) : Prop :=
  ∃ calls, p s = .ok () (called calls s) ∧ calls.length ≤ 1 ∧ ∀ call, call ∈ calls ↔ P call

section CallsExactly

variable {p : EStateM Fault (Subscriber κ) Unit} {s : Subscriber κ} {P Q : Invocation κ → Prop}

theorem CallsExactly.none (hp : p s = .ok () s) (hP : ∀ call, ¬ P call) : CallsExactly p s P :=
  ⟨[], by rw [called_nil]; exact hp, Nat.zero_le 1, fun call =>
    ⟨fun h => absurd h List.not_mem_nil, fun h => absurd h (hP call)⟩⟩

theorem CallsExactly.one {call : Invocation κ} (hp : p s = .ok () (called [call] s))
    (hP : ∀ call', P call' ↔ call' = call) : CallsExactly p s P :=
  ⟨[call], hp, Nat.le_refl 1, fun call' => List.mem_singleton.trans (hP call').symm⟩

theorem CallsExactly.congr (h : CallsExactly p s P) (hPQ : ∀ call, P call ↔ Q call) :
    CallsExactly p s Q := by
  obtain ⟨calls, hp, hlength, hmem⟩ := h
  exact ⟨calls, hp, hlength, fun call => (hmem call).trans (hPQ call)⟩

end CallsExactly

/-- An acknowledgement calls the acknowledgement callback of the entry, if it has one. -/
theorem callAcknowledgementCallback_calls (table : Table) (key : Bytes) (n : Int)
    {s : Subscriber κ} (hs : Callable s) :
    CallsExactly (callAcknowledgementCallback (pure ()) key (table.entries s) n) s fun call =>
      ∃ callback acknowledgement, Holds s table key callback (some acknowledgement) ∧
        call = .acknowledgement acknowledgement n := by
  unfold callAcknowledgementCallback Holds
  cases hentry : (table.entries s)[key]? with
  | none => exact .none rfl (by simp)
  | some holder =>
    obtain ⟨callback, hcallback⟩ := hs table key holder hentry
    obtain ⟨subscribeCallback, acknowledgementCallback⟩ := holder
    cases hcallback
    cases acknowledgementCallback with
    | none => exact .none rfl (by simp)
    | some acknowledgement => exact .one rfl (by simp)

/-- A message calls the message callback of the entry. -/
theorem callMessageCallback_calls (table : Table) (key channel message : Bytes)
    {s : Subscriber κ} (hs : Callable s) :
    CallsExactly (callMessageCallback (pure ()) key channel message (table.entries s)) s fun call =>
      ∃ callback acknowledgement, Holds s table key callback acknowledgement ∧
        call = .message callback channel message := by
  unfold callMessageCallback Holds
  cases hentry : (table.entries s)[key]? with
  | none => exact .none rfl (by simp)
  | some holder =>
    obtain ⟨callback, hcallback⟩ := hs table key holder hentry
    obtain ⟨subscribeCallback, acknowledgementCallback⟩ := holder
    cases hcallback
    exact .one rfl (by simp)

/-- The handler of acknowledgements. -/
theorem handleAcknowledgementReply_calls {title key nbChans : Reply} {s : Subscriber κ}
    (hs : Callable s) :
    CallsExactly (handleAcknowledgementReply (pure ()) [title, key, nbChans]) s fun call =>
      ∃ (table : Table) (k : Bytes) (n : Int) (callback : κ) (acknowledgement : κ),
        title.asString = .ok table.title ∧ key.asString = .ok k ∧ nbChans.asInteger = .ok n ∧
        Holds s table k callback (some acknowledgement) ∧
        call = .acknowledgement acknowledgement n := by
  unfold handleAcknowledgementReply
  dsimp only
  rcases title.asString with e | t
  · exact .none rfl (by simp)
  rcases key.asString with e | k
  · exact .none rfl (by simp)
  rcases nbChans.asInteger with e | n
  · exact .none rfl (by simp)
  -- the table is the one of which the title is
  have hof : ∀ table : Table, t = table.title →
      CallsExactly (callAcknowledgementCallback (pure ()) k (table.entries s) n) s fun call =>
        ∃ (table : Table) (k' : Bytes) (n' : Int) (callback : κ) (acknowledgement : κ),
          (Except.ok t : Except Fault Bytes) = .ok table.title ∧
          (Except.ok k : Except Fault Bytes) = .ok k' ∧ (Except.ok n : Except Fault Int) = .ok n' ∧
          Holds s table k' callback (some acknowledgement) ∧
          call = .acknowledgement acknowledgement n' := by
    rintro table rfl
    refine (callAcknowledgementCallback_calls table k n hs).congr fun call => ⟨?_, ?_⟩
    · rintro ⟨callback, acknowledgement, hholds, hcall⟩
      exact ⟨table, k, n, callback, acknowledgement, rfl, rfl, rfl, hholds, hcall⟩
    · rintro ⟨table', k', n', callback, acknowledgement, ht, hk, hn, hholds, hcall⟩
      cases hk
      cases hn
      rw [Table.title_injective (Except.ok.inj ht)] at hholds
      exact ⟨callback, acknowledgement, hholds, hcall⟩
  by_cases hchannels : t = ascii "subscribe"
  · obtain ⟨calls, hcalls, hrest⟩ := hof .channels hchannels
    refine ⟨calls, ?_, hrest⟩
    dsimp only
    rw [get_bind, if_pos hchannels]
    exact hcalls
  · by_cases hpatterns : t = ascii "psubscribe"
    · obtain ⟨calls, hcalls, hrest⟩ := hof .patterns hpatterns
      refine ⟨calls, ?_, hrest⟩
      dsimp only
      rw [get_bind, if_neg hchannels, if_pos hpatterns]
      exact hcalls
    · refine .none ?_ ?_
      · dsimp only
        rw [get_bind, if_neg hchannels, if_neg hpatterns]
        rfl
      · rintro call ⟨table, k', n', callback, acknowledgement, ht, -⟩
        cases table with
        | channels => exact hchannels (Except.ok.inj ht)
        | patterns => exact hpatterns (Except.ok.inj ht)

/-- The handler of the messages of channels. -/
theorem handleSubscribeReply_calls {title channel message : Reply} {s : Subscriber κ}
    (hs : Callable s) :
    CallsExactly (handleSubscribeReply (pure ()) [title, channel, message]) s fun call =>
      ∃ (ch m : Bytes) (callback : κ) (acknowledgement : Option κ),
        title.asString = .ok (ascii "message") ∧ channel.asString = .ok ch ∧
        message.asString = .ok m ∧ Holds s .channels ch callback acknowledgement ∧
        call = .message callback ch m := by
  unfold handleSubscribeReply
  dsimp only
  rcases title.asString with e | t
  · exact .none rfl (by simp)
  rcases channel.asString with e | ch
  · exact .none rfl (by simp)
  rcases message.asString with e | m
  · exact .none rfl (by simp)
  dsimp only
  by_cases ht : t = ascii "message"
  · rw [if_pos ht, ht]
    refine (callMessageCallback_calls .channels ch ch m hs).congr fun call => ⟨?_, ?_⟩
    · rintro ⟨callback, acknowledgement, hholds, hcall⟩
      exact ⟨ch, m, callback, acknowledgement, rfl, rfl, rfl, hholds, hcall⟩
    · rintro ⟨ch', m', callback, acknowledgement, -, hch, hm, hholds, hcall⟩
      cases hch
      cases hm
      exact ⟨callback, acknowledgement, hholds, hcall⟩
  · rw [if_neg ht]
    refine .none rfl ?_
    rintro call ⟨ch', m', callback, acknowledgement, ht', -⟩
    exact ht (Except.ok.inj ht')

/-- The handler of the messages of patterns. -/
theorem handlePsubscribeReply_calls {title pattern channel message : Reply} {s : Subscriber κ}
    (hs : Callable s) :
    CallsExactly (handlePsubscribeReply (pure ()) [title, pattern, channel, message]) s fun call =>
      ∃ (p ch m : Bytes) (callback : κ) (acknowledgement : Option κ),
        title.asString = .ok (ascii "pmessage") ∧ pattern.asString = .ok p ∧
        channel.asString = .ok ch ∧ message.asString = .ok m ∧
        Holds s .patterns p callback acknowledgement ∧ call = .message callback ch m := by
  unfold handlePsubscribeReply
  dsimp only
  rcases title.asString with e | t
  · exact .none rfl (by simp)
  rcases pattern.asString with e | p
  · exact .none rfl (by simp)
  rcases channel.asString with e | ch
  · exact .none rfl (by simp)
  rcases message.asString with e | m
  · exact .none rfl (by simp)
  dsimp only
  by_cases ht : t = ascii "pmessage"
  · rw [if_pos ht, ht]
    refine (callMessageCallback_calls .patterns p ch m hs).congr fun call => ⟨?_, ?_⟩
    · rintro ⟨callback, acknowledgement, hholds, hcall⟩
      exact ⟨p, ch, m, callback, acknowledgement, rfl, rfl, rfl, rfl, hholds, hcall⟩
    · rintro ⟨p', ch', m', callback, acknowledgement, -, hp, hch, hm, hholds, hcall⟩
      cases hp
      cases hch
      cases hm
      exact ⟨callback, acknowledgement, hholds, hcall⟩
  · rw [if_neg ht]
    refine .none rfl ?_
    rintro call ⟨p', ch', m', callback, acknowledgement, ht', -⟩
    exact ht (Except.ok.inj ht')

/-- Three rows with a number at the end: an acknowledgement. -/
theorem handleAcknowledgementReply_runs {reply title key last : Reply} {s : Subscriber κ}
    (hs : Callable s) (hreply : reply.asArray = .ok [title, key, last])
    (hinteger : last.isInteger = true) :
    CallsExactly (handleAcknowledgementReply (pure ()) [title, key, last]) s
      (Runs (Holds s) reply) := by
  refine (handleAcknowledgementReply_calls hs).congr fun call => ⟨?_, ?_⟩
  · rintro ⟨table, k, n, callback, acknowledgement, ht, hk, hn, hholds, rfl⟩
    exact .acknowledgement table hreply ht hk hn hholds
  · intro hruns
    cases hruns with
    | message shape ht hch hm =>
      cases hreply.symm.trans shape
      exact absurd (asString_eq_ok hm)
        (by rw [not_isString_of_isInteger hinteger]; exact Bool.false_ne_true)
    | pmessage shape => cases hreply.symm.trans shape
    | acknowledgement table shape ht hk hn hholds =>
      cases hreply.symm.trans shape
      exact ⟨table, _, _, _, _, ht, hk, hn, hholds, rfl⟩

/-- Three rows with a text at the end: a message to a channel. -/
theorem handleSubscribeReply_runs {reply title key last : Reply} {s : Subscriber κ}
    (hs : Callable s) (hreply : reply.asArray = .ok [title, key, last])
    (hinteger : ¬ last.isInteger = true) :
    CallsExactly (handleSubscribeReply (pure ()) [title, key, last]) s (Runs (Holds s) reply) := by
  refine (handleSubscribeReply_calls hs).congr fun call => ⟨?_, ?_⟩
  · rintro ⟨ch, m, callback, acknowledgement, ht, hch, hm, hholds, rfl⟩
    exact .message hreply ht hch hm hholds
  · intro hruns
    cases hruns with
    | message shape ht hch hm hholds =>
      cases hreply.symm.trans shape
      exact ⟨_, _, _, _, ht, hch, hm, hholds, rfl⟩
    | pmessage shape => cases hreply.symm.trans shape
    | acknowledgement table shape ht hk hn =>
      cases hreply.symm.trans shape
      exact absurd (asInteger_eq_ok hn) hinteger

/-- Four rows: a message that a pattern matches. -/
theorem handlePsubscribeReply_runs {reply title pattern channel message : Reply}
    {s : Subscriber κ} (hs : Callable s)
    (hreply : reply.asArray = .ok [title, pattern, channel, message]) :
    CallsExactly (handlePsubscribeReply (pure ()) [title, pattern, channel, message]) s
      (Runs (Holds s) reply) := by
  refine (handlePsubscribeReply_calls hs).congr fun call => ⟨?_, ?_⟩
  · rintro ⟨p, ch, m, callback, acknowledgement, ht, hp, hch, hm, hholds, rfl⟩
    exact .pmessage hreply ht hp hch hm hholds
  · intro hruns
    cases hruns with
    | message shape => cases hreply.symm.trans shape
    | pmessage shape ht hp hch hm hholds =>
      cases hreply.symm.trans shape
      exact ⟨_, _, _, _, _, ht, hp, hch, hm, hholds, rfl⟩
    | acknowledgement table shape => cases hreply.symm.trans shape

/-- The handler of the connection, for a reply of any shape: the size of an array and the
type of its last row tell which of the three it is. -/
theorem connectionReceiveHandler_calls (reply : Reply) {s : Subscriber κ} (hs : Callable s)
    (hauth : s.authReplyCallback = none) :
    CallsExactly (connectionReceiveHandler none reply) s (Runs (Holds s) reply) := by
  unfold connectionReceiveHandler
  rw [Option.getD_none]
  dsimp only
  rcases hreply : reply.asArray with e | rows
  · refine .none ?_ ?_
    · dsimp only
      unfold handleAuthReply
      rw [get_bind, hauth]
      rfl
    · intro call hruns
      cases hruns with
      | message shape => cases hreply.symm.trans shape
      | pmessage shape => cases hreply.symm.trans shape
      | acknowledgement table shape => cases hreply.symm.trans shape
  match rows with
  | [title, key, last] =>
    dsimp only
    by_cases hinteger : last.isInteger = true
    · rw [if_pos hinteger]
      exact handleAcknowledgementReply_runs hs hreply hinteger
    · rw [if_neg hinteger]
      by_cases hstring : last.isString = true
      · rw [if_pos hstring]
        exact handleSubscribeReply_runs hs hreply hinteger
      · rw [if_neg hstring]
        refine .none rfl ?_
        intro call hruns
        cases hruns with
        | message shape ht hch hm =>
          cases hreply.symm.trans shape
          exact hstring (asString_eq_ok hm)
        | pmessage shape => cases hreply.symm.trans shape
        | acknowledgement table shape ht hk hn =>
          cases hreply.symm.trans shape
          exact hinteger (asInteger_eq_ok hn)
  | [title, pattern, channel, message] => exact handlePsubscribeReply_runs hs hreply
  | [] | [_] | [_, _] | _ :: _ :: _ :: _ :: _ :: _ =>
    -- the handler drops an array of any other size
    refine .none rfl ?_
    intro call hruns
    cases hruns with
    | message shape => cases hreply.symm.trans shape
    | pmessage shape => cases hreply.symm.trans shape
    | acknowledgement table shape => cases hreply.symm.trans shape

/-! ## What a history leaves behind -/

section Latest

variable {table : Table} {key : Bytes} {callback : κ} {acknowledgement : Option κ}

theorem not_latest_nil : ¬ Latest [] table key callback acknowledgement := by
  rintro ⟨before, later, h, -⟩
  exact absurd h.symm (List.append_ne_nil_of_right_ne_nil _ (List.cons_ne_nil _ _))

/-- The last entry is that of the last call, or the one before it if that is about
something else. -/
theorem latest_concat (history : List (Received κ)) (e : Received κ) :
    Latest (history ++ [e]) table key callback acknowledgement ↔
      e = .call (.subscribe table key callback acknowledgement) ∨
        (∀ op, e = .call op → ¬ op.Concerns table key) ∧
          Latest history table key callback acknowledgement := by
  constructor
  · rintro ⟨before, later, hhistory, hlater⟩
    rcases List.eq_nil_or_concat later with rfl | ⟨later, e', rfl⟩
    · obtain ⟨-, he⟩ := List.append_inj' hhistory rfl
      exact .inl (List.singleton_inj.mp he)
    · rw [List.concat_eq_append, ← List.cons_append, ← List.append_assoc] at hhistory
      obtain ⟨rfl, he⟩ := List.append_inj' hhistory rfl
      cases List.singleton_inj.mp he
      rw [List.concat_eq_append] at hlater
      refine .inr ⟨?_, before, later, rfl, fun op hop => hlater op (List.mem_append_left _ hop)⟩
      rintro op rfl
      exact hlater op (List.mem_append_right _ (List.mem_singleton.mpr rfl))
  · rintro (rfl | ⟨he, before, later, rfl, hlater⟩)
    · exact ⟨history, [], rfl, fun op hop => absurd hop List.not_mem_nil⟩
    · refine ⟨before, later ++ [e], by rw [List.append_assoc, List.cons_append], fun op hop => ?_⟩
      rcases List.mem_append.mp hop with hop | hop
      · exact hlater op hop
      · exact he op (List.mem_singleton.mp hop).symm

/-- Nothing is left for a channel or a pattern that was unsubscribed and not subscribed
again. -/
theorem not_latest_of_unsubscribed {before later : List (Received κ)}
    (hlater : ∀ callback acknowledgement, .call (.subscribe table key callback acknowledgement) ∉ later) :
    ¬ Latest (before ++ .call (.unsubscribe table key) :: later) table key callback
      acknowledgement := by
  induction later using List.reverseRecOn with
  | nil =>
    rw [latest_concat]
    rintro (h | ⟨h, -⟩)
    · cases h
    · exact h _ rfl ⟨rfl, rfl⟩
  | append_singleton later e ih =>
    rw [← List.cons_append, ← List.append_assoc, latest_concat]
    rintro (rfl | ⟨-, h⟩)
    · exact hlater _ _ (List.mem_append_right _ (List.mem_singleton.mpr rfl))
    · exact ih (fun callback acknowledgement hmem =>
        hlater callback acknowledgement (List.mem_append_left _ hmem)) h

end Latest

/-- The tables hold the entries that the history leaves, and no others. -/
structure Tracks (history : List (Received κ)) (s : Subscriber κ) : Prop where
  entries : ∀ (table : Table) (key : Bytes) (holder : CallbackHolder κ),
    (table.entries s)[key]? = some holder ↔
      ∃ callback acknowledgement, holder = ⟨some callback, acknowledgement⟩ ∧
        Latest history table key callback acknowledgement
  auth : s.authReplyCallback = none

namespace Tracks

variable {history : List (Received κ)} {s : Subscriber κ}

theorem callable (h : Tracks history s) : Callable s := by
  intro table key holder hholder
  obtain ⟨callback, acknowledgement, rfl, -⟩ := (h.entries table key holder).mp hholder
  exact ⟨callback, rfl⟩

theorem holds_iff (h : Tracks history s) (table : Table) (key : Bytes) (callback : κ)
    (acknowledgement : Option κ) :
    Holds s table key callback acknowledgement ↔
      Latest history table key callback acknowledgement := by
  refine (h.entries table key _).trans ⟨?_, fun hlatest => ⟨_, _, rfl, hlatest⟩⟩
  rintro ⟨callback', acknowledgement', hholder, hlatest⟩
  cases hholder
  exact hlatest

theorem new (t : Session) : Tracks [] ({ toSession := t } : Subscriber κ) where
  entries table key holder := by
    have hempty : (table.entries ({ toSession := t } : Subscriber κ))[key]? = none := by
      cases table <;> exact Std.TreeMap.getElem?_emptyc
    rw [hempty]
    exact ⟨fun h => absurd h (Option.some_ne_none holder).symm,
      fun ⟨_, _, _, h⟩ => absurd h not_latest_nil⟩
  auth := rfl

theorem call (h : Tracks history s) (op : Op κ) : Tracks (history ++ [.call op]) (op.run s) where
  entries table key holder := by
    rw [table_op]
    simp only [latest_concat, Received.call.injEq]
    cases op with
    | subscribe table' key' callback acknowledgement =>
      by_cases hkey : table' = table ∧ key' = key
      · obtain ⟨rfl, rfl⟩ := hkey
        simp [Op.Concerns, eq_comm]
      · simp [Op.Concerns, hkey, h.entries table key holder]
        grind
    | unsubscribe table' key' =>
      by_cases hkey : table' = table ∧ key' = key
      · simp [Op.Concerns, hkey]
      · simp [Op.Concerns, hkey, h.entries table key holder]
  auth := by
    cases op with
    | subscribe table key => cases table <;> exact h.auth
    | unsubscribe table key =>
      cases table
      all_goals
        simp only [Op.run, unsubscribe, punsubscribe]
        split <;> exact h.auth

/-- What a reply runs changes no table. -/
theorem answer (h : Tracks history s) (reply : Reply) :
    Tracks (history ++ [.answer reply]) (Received.run s (.answer reply)) := by
  obtain ⟨calls, hcalls, -⟩ := connectionReceiveHandler_calls reply h.callable h.auth
  have hrun : Received.run s (.answer reply) = called calls s := after_ok hcalls
  rw [hrun]
  refine ⟨fun table key holder => ?_, h.auth⟩
  have hentries : table.entries (called calls s) = table.entries s := by cases table <;> rfl
  rw [hentries, h.entries table key holder]
  simp [latest_concat]

theorem run (t : Session) (history : List (Received κ)) :
    Tracks history (runAll history { toSession := t }) := by
  induction history using List.reverseRecOn with
  | nil => exact .new t
  | append_singleton history e ih =>
    unfold runAll at ih ⊢
    rw [List.foldl_append]
    cases e with
    | call op => exact ih.call op
    | answer reply => exact ih.answer reply

end Tracks

theorem Runs.congr {entry entry' : Table → Bytes → κ → Option κ → Prop} {reply : Reply}
    {call : Invocation κ}
    (h : ∀ table key callback acknowledgement, entry table key callback acknowledgement →
      entry' table key callback acknowledgement) (hruns : Runs entry reply call) :
    Runs entry' reply call := by
  cases hruns with
  | message shape ht hch hm hentry => exact .message shape ht hch hm (h _ _ _ _ hentry)
  | pmessage shape ht hp hch hm hentry => exact .pmessage shape ht hp hch hm (h _ _ _ _ hentry)
  | acknowledgement table shape ht hk hn hentry =>
    exact .acknowledgement table shape ht hk hn (h _ _ _ _ hentry)

/-- After any history, a reply of any shape runs at most one callback: the one that the
format of the reply and the last entry for its channel or its pattern tell, with the
arguments that they tell, and none if there is none. A channel or a pattern that was
unsubscribed and not subscribed again has no entry. -/
theorem dispatches (t : Session) (history : List (Received κ)) (reply : Reply) :
    let s := runAll history { toSession := t }
    (∃ calls, connectionReceiveHandler none reply s = .ok () (called calls s) ∧
      calls.length ≤ 1 ∧ ∀ call, call ∈ calls ↔ Runs (Latest history) reply call) ∧
    ∀ (table : Table) (key : Bytes) (before later : List (Received κ)),
      history = before ++ .call (.unsubscribe table key) :: later →
      (∀ callback acknowledgement, .call (.subscribe table key callback acknowledgement) ∉ later) →
      ∀ callback acknowledgement, ¬ Latest history table key callback acknowledgement := by
  intro s
  have htracks : Tracks history s := .run t history
  refine ⟨?_, ?_⟩
  · refine (connectionReceiveHandler_calls reply htracks.callable htracks.auth).congr fun call => ?_
    constructor
    · exact Runs.congr fun table key callback acknowledgement =>
        (htracks.holds_iff table key callback acknowledgement).mp
    · exact Runs.congr fun table key callback acknowledgement =>
        (htracks.holds_iff table key callback acknowledgement).mpr
  · rintro table key before later rfl hlater callback acknowledgement
    exact not_latest_of_unsubscribed hlater

end Subscriber

end CppRedis
