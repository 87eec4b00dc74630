import CppRedis.Runs
import Mathlib.Data.List.Nodup
import Mathlib.Data.List.Range

/-!
# Futures

A command without a callback returns a future: `exec_cmd` makes a promise, and sends the
command with a callback that sets the value of the promise. To set it a second time would
throw out of the receive handler, and a promise that is given up without a value makes its
future throw.

* `execCmd`: the promises are numbered in the order in which they are made.
* `Issue`: what the user's code does, a client and its promises given.
* `Numbered`: each promise is in the history of the client once.
* `settle`: what the calls of the callbacks have done to the promises.
* `futures_settled`: in every state of every run, no promise was set twice; each one has the
  reply that its callback was called with, or its entry is waiting in the queue or in a
  failure thread.
-/

namespace CppRedis

open Text Procedure

/-- A callback of a client that hands out futures: one of the user's, or that of `exec_cmd`,
which sets the value of a promise. -/
inductive Reaction (κ : Type)
  | user (k : κ)
  | promise (i : Nat)
deriving DecidableEq, Repr

/-- The shared states of the promises: the values of those that are set. -/
abbrev Promises := Nat → Option Reply

/-- `std::promise::set_value`. -/
def setValue (i : Nat) (reply : Reply) (promises : Promises) : Except Fault Promises :=
  match promises i with
  | none => .ok fun j => if j = i then some reply else promises j
  | some _ => .error (.stdException "std::future_error: Promise already satisfied")

namespace Client

variable {κ : Type}

/-- The promise that a callback sets, if it does. -/
def promiseOf (callback : Callback (Reaction κ)) : Option Nat :=
  match callback with
  | .user (.promise i) => some i
  | _ => none

/-- The promises of some entries. -/
def promisesOf (requests : List (CommandRequest (Reaction κ))) : List Nat :=
  requests.filterMap fun request => request.callback.bind promiseOf

theorem eq_promise_of_promiseOf {callback : Callback (Reaction κ)} {i : Nat}
    (h : promiseOf callback = some i) : callback = .user (.promise i) := by
  cases callback with
  | user reaction =>
    cases reaction with
    | user k => cases h
    | promise j => rw [Option.some.inj h]
  | reAuth => cases h
  | reSelect => cases h

theorem promisesOf_append (requests requests' : List (CommandRequest (Reaction κ))) :
    promisesOf (requests ++ requests') = promisesOf requests ++ promisesOf requests' :=
  List.filterMap_append

/-- How many promises were made. -/
def promised (c : Client (Reaction κ)) : Nat :=
  (promisesOf c.pushed).length

/-- The functions that `exec_cmd` is called with, all but their callback. Those of the other
commands call `send`. -/
inductive Asking
  | send (redisCmd : Command)
  | auth (password : Bytes)
  | select (index : Int)

def Asking.run (callback : Reaction κ) (c : Client (Reaction κ)) : Asking → Client (Reaction κ)
  | .send redisCmd => c.send redisCmd (some callback)
  | .auth password => c.auth password (some callback)
  | .select index => c.select index (some callback)

/-- `exec_cmd`. The future that it returns is that of the promise `c.promised`. -/
def execCmd (f : Asking) (c : Client (Reaction κ)) : Client (Reaction κ) :=
  f.run (.promise c.promised) c

/-- What a call of a callback does to the promises. -/
def settleCall (promises : Promises) (call : Callback (Reaction κ) × Reply) :
    Except Fault Promises :=
  match promiseOf call.1 with
  | none => .ok promises
  | some i => setValue i call.2 promises

/-- The promises after some calls of callbacks, each with its reply. -/
def settle (called : List (Callback (Reaction κ) × Reply)) : Except Fault Promises :=
  called.foldlM settleCall fun _ => none

/-! ## Setting promises -/

/-- The first reply that a promise is set to. -/
def firstReply (called : List (Callback (Reaction κ) × Reply)) (i : Nat) : Option Reply :=
  called.findSome? fun call => if promiseOf call.1 = some i then some call.2 else none

theorem firstReply_cons (call : Callback (Reaction κ) × Reply)
    (called : List (Callback (Reaction κ) × Reply)) (i : Nat) :
    firstReply (call :: called) i =
      if promiseOf call.1 = some i then some call.2 else firstReply called i := by
  unfold firstReply
  rw [List.findSome?_cons]
  by_cases h : promiseOf call.1 = some i
  · rw [if_pos h, if_pos h]
  · rw [if_neg h, if_neg h]

theorem firstReply_eq_none_iff {called : List (Callback (Reaction κ) × Reply)} {i : Nat} :
    firstReply called i = none ↔ i ∉ called.filterMap (promiseOf ∘ Prod.fst) := by
  unfold firstReply
  rw [List.findSome?_eq_none_iff, List.mem_filterMap]
  constructor
  · rintro h ⟨call, hcall, hi⟩
    have hnone := h call hcall
    rw [if_pos (show promiseOf call.1 = some i from hi)] at hnone
    cases hnone
  · intro h call hcall
    exact if_neg fun hi => h ⟨call, hcall, hi⟩

/-- Where the calls are for different promises, and for none that has a value, each promise gets
the reply of its own call. By induction on the calls. -/
theorem foldlM_settleCall {called : List (Callback (Reaction κ) × Reply)}
    {promises : Promises} (hnodup : (called.filterMap (promiseOf ∘ Prod.fst)).Nodup)
    (hunset : ∀ i ∈ called.filterMap (promiseOf ∘ Prod.fst), promises i = none) :
    called.foldlM settleCall promises =
      .ok fun i => (firstReply called i).or (promises i) := by
  induction called generalizing promises with
  | nil => rfl
  | cons call called ih =>
    rw [List.foldlM_cons]
    unfold settleCall
    cases hcall : promiseOf call.1 with
    | none =>
      have hskip : (promiseOf ∘ Prod.fst) call = none := hcall
      rw [List.filterMap_cons_none hskip] at hnodup hunset
      refine (ih hnodup hunset).trans (congrArg Except.ok (funext fun i => ?_))
      rw [firstReply_cons, hcall, if_neg nofun]
    | some j =>
      have htake : (promiseOf ∘ Prod.fst) call = some j := hcall
      rw [List.filterMap_cons_some htake] at hnodup hunset
      obtain ⟨hj, hrest⟩ := List.nodup_cons.mp hnodup
      dsimp only
      unfold setValue
      rw [hunset j List.mem_cons_self]
      refine (ih hrest fun i hi => ?_).trans (congrArg Except.ok (funext fun i => ?_))
      · have hij : i ≠ j := fun h => hj (h ▸ hi)
        rw [if_neg hij]
        exact hunset i (List.mem_cons_of_mem _ hi)
      · rw [firstReply_cons, hcall]
        by_cases hij : i = j
        · rw [if_pos hij, if_pos (congrArg some hij.symm), firstReply_eq_none_iff.mpr (hij ▸ hj)]
          rfl
        · rw [if_neg hij, if_neg fun h => hij (Option.some.inj h).symm]

/-! ## What the user's code does -/

/-- A step of the user's code: a call without a promise, or one of `exec_cmd`. -/
inductive Issue (c : Client (Reaction κ)) : Client (Reaction κ) → Prop
  | call {c' : Client (Reaction κ)} (h : Call c c')
      (hplain : promisesOf c'.pushed = promisesOf c.pushed) : Issue c c'
  | execCmd (f : Asking) : Issue c (c.execCmd f)

theorem Asking.call (f : Asking) (callback : Reaction κ) (c : Client (Reaction κ)) :
    Call c (f.run callback c) := by
  cases f with
  | send redisCmd => exact .send redisCmd _
  | auth password => exact .auth password _
  | select index => exact .select index _

/-- What is pushed carries the callback. -/
theorem Asking.pushed (f : Asking) (callback : Reaction κ) (c : Client (Reaction κ)) :
    ∃ redisCmd, (f.run callback c).pushed = c.pushed ++ [⟨redisCmd, some (.user callback)⟩] := by
  cases f with
  | send redisCmd => exact ⟨_, rfl⟩
  | auth password => exact ⟨_, rfl⟩
  | select index => exact ⟨_, rfl⟩

theorem Issue.moves {c c' : Client (Reaction κ)} (h : Issue c c') :
    Relation.ReflTransGen Move c c' := by
  cases h with
  | call h hplain => exact h.moves
  | execCmd f => exact (f.call _ c).moves

/-- The promises were pushed in the order in which they were made, each of them once. -/
def Numbered (c : Client (Reaction κ)) : Prop :=
  promisesOf c.pushed = List.range c.promised

theorem Numbered.of_eq {c c' : Client (Reaction κ)} (h : Numbered c)
    (heq : promisesOf c'.pushed = promisesOf c.pushed) : Numbered c' := by
  unfold Numbered promised
  rw [heq]
  exact h

theorem Numbered.execCmd {c : Client (Reaction κ)} (h : Numbered c) (f : Asking) :
    Numbered (c.execCmd f) := by
  obtain ⟨redisCmd, hpushed⟩ := f.pushed (.promise c.promised) c
  have hpromises : promisesOf (c.execCmd f).pushed = List.range c.promised ++ [c.promised] := by
    unfold Client.execCmd
    rw [hpushed, promisesOf_append, h]
    rfl
  unfold Numbered promised
  rw [hpromises, List.length_append, List.length_range, List.length_singleton, List.range_succ]

/-- Every step keeps the numbers; those of the library push no promise. -/
theorem Numbered.step {c c' : Client (Reaction κ)} (h : Numbered c) (hstep : Step Issue c c') :
    Numbered c' := by
  have hpush (request : CommandRequest (Reaction κ)) (hrequest : promisesOf [request] = []) :
      promisesOf (c.pushed ++ [request]) = promisesOf c.pushed := by
    rw [promisesOf_append, hrequest, List.append_nil]
  cases hstep with
  | user hissue =>
    cases hissue with
    | call _ hplain => exact h.of_eq hplain
    | execCmd f => exact h.execCmd f
  | reAuth =>
    unfold Client.reAuth
    split
    · exact h
    · exact h.of_eq (hpush _ rfl)
  | reSelect =>
    unfold Client.reSelect
    split
    · exact h
    · exact h.of_eq (hpush _ rfl)
  | resendFailedCommands =>
    rw [resendFailedCommands_eq]
    exact h
  | tryCommit => exact h.of_eq (congrArg _ (tryCommit_pushed c))
  | clearCallbacks => exact h.of_eq (congrArg _ (clearCallbacks_pushed c))
  | _ => exact h

/-! ## Every run -/

/-- The promises of the entries that are not handled yet. -/
def waitingPromises (c : Client (Reaction κ)) : List Nat :=
  promisesOf (c.commands ++ c.failureThreads.flatten)

/-- A promise is that of one entry, of which the callback was called or which waits. -/
theorem Numbered.perm {c : Client (Reaction κ)} (h : Numbered c) (haccounted : Accounted c) :
    (List.range c.promised).Perm
      (c.invoked.filterMap (promiseOf ∘ Prod.fst) ++ c.waitingPromises) := by
  have hentries : (promisesOf c.pushed).Perm (promisesOf c.accountedFor) :=
    haccounted.entries.filterMap _
  have hcalled : promisesOf (c.handled.map Prod.fst) = c.invoked.filterMap (promiseOf ∘ Prod.fst) := by
    unfold promisesOf
    rw [← List.filterMap_filterMap, ← haccounted.called, List.filterMap_map]
  unfold accountedFor at hentries
  rw [h, promisesOf_append, hcalled] at hentries
  exact hentries

theorem numbered_run {notify : Notification → Program (Reaction κ)}
    (hn : ∀ n, Follows Issue (notify n).run) (s : Session) {events : List (Event (Reaction κ))}
    (h : (users Issue notify).Possible { toSession := s } events) :
    Numbered ((users Issue notify).run { toSession := s } events) ∧
      Accounted ((users Issue notify).run { toSession := s } events) := by
  refine users_invariant hn (I := fun c => Numbered c ∧ Accounted c) (fun c c' hstep hc => ?_)
    (fun c c' hfailed hc => ?_) h ⟨rfl, .new s⟩
  · exact ⟨hc.1.step hstep, hc.2.moves (hstep.moves fun _ _ hissue => hissue.moves)⟩
  · cases hfailed with
    | failFront i request rest hi => exact ⟨hc.1, hc.2.failFront hi⟩

/-- In every state of every run, setting the promises never throws: each of them was set at
most once. One that is set has the reply that its callback was called with, one of the server
or the error `network failure`, and its entry waits nowhere; the entry of one that is not set
waits at one place, in the queue or in a failure thread, so that no promise is given up. -/
theorem futures_settled {notify : Notification → Program (Reaction κ)}
    (hn : ∀ n, Follows Issue (notify n).run) (s : Session) {events : List (Event (Reaction κ))}
    (h : (users Issue notify).Possible { toSession := s } events) :
    let c := (users Issue notify).run { toSession := s } events
    ∃ promises, settle c.invoked = .ok promises ∧
      (∀ i, c.promised ≤ i → promises i = none) ∧
      ∀ i < c.promised,
        (∃ reply, promises i = some reply ∧ (.user (.promise i), reply) ∈ c.invoked ∧
          (reply ∈ c.received ∨ reply = networkFailure) ∧ i ∉ c.waitingPromises) ∨
        promises i = none ∧ c.waitingPromises.count i = 1 := by
  obtain ⟨hnumbered, haccounted⟩ := numbered_run hn s h
  generalize (users Issue notify).run { toSession := s } events = c at hnumbered haccounted
  -- a promise that was made is at one place: called, in the queue or with a failure thread
  have hperm := hnumbered.perm haccounted
  obtain ⟨hcalled, hwaiting, hdisjoint⟩ := List.nodup_append'.mp (hperm.nodup List.nodup_range)
  refine ⟨firstReply c.invoked, ?_, fun i hi => ?_, fun i hi => ?_⟩
  · refine (foldlM_settleCall hcalled fun _ _ => rfl).trans (congrArg Except.ok (funext fun i => ?_))
    exact Option.or_none
  · rw [firstReply_eq_none_iff]
    intro hmem
    have hlt := List.mem_range.mp (hperm.mem_iff.mpr (List.mem_append_left _ hmem))
    omega
  · cases hreply : firstReply c.invoked i with
    | none =>
      refine .inr ⟨rfl, List.count_eq_one_of_mem hwaiting ?_⟩
      rcases List.mem_append.mp (hperm.mem_iff.mp (List.mem_range.mpr hi)) with hmem | hmem
      · exact absurd hmem (firstReply_eq_none_iff.mp hreply)
      · exact hmem
    | some reply =>
      obtain ⟨⟨callback, reply'⟩, hcall, hfirst⟩ := List.exists_of_findSome?_eq_some hreply
      split at hfirst
      · next hi' =>
        obtain rfl := Option.some.inj hfirst
        have hmem : i ∈ c.invoked.filterMap (promiseOf ∘ Prod.fst) :=
          List.mem_filterMap.mpr ⟨_, hcall, hi'⟩
        obtain rfl := eq_promise_of_promiseOf hi'
        exact .inl ⟨_, rfl, hcall, haccounted.reply_of_called hcall, hdisjoint hmem⟩
      · cases hfirst

/-- Three promises: the server answers one of them before the connection is lost, a failure
thread another one, and the third waits for a connection. -/
def threePromises : List (Event (Reaction Nat)) :=
  [.send [ascii "GET", ascii "k"] (some (.promise 0)), .select 1 (some (.promise 1)),
    .connect { host := ascii "localhost", port := 6379 } true, .commit,
    .receive (some (ascii "+OK\r\n")) [] .idle [], .drop .idle .idle [], .failureStep 0 .idle,
    .send [ascii "PING"] (some (.promise 2))]

theorem futures_settled_threePromises :
    let c := (users Issue fun _ => .idle).run { toSession := {} } threePromises
    ∃ promises, settle c.invoked = .ok promises ∧
      (∀ i, c.promised ≤ i → promises i = none) ∧
      ∀ i < c.promised,
        (∃ reply, promises i = some reply ∧ (.user (.promise i), reply) ∈ c.invoked ∧
          (reply ∈ c.received ∨ reply = networkFailure) ∧ i ∉ c.waitingPromises) ∨
        promises i = none ∧ c.waitingPromises.count i = 1 := by
  have hidle : Follows Issue (Program.idle : Program (Reaction Nat)).run := .pure _
  refine futures_settled (fun _ => hidle) {} (.intro ?_ <| .intro ?_ <| .intro trivial <|
    .intro ?_ <| .intro ⟨nofun, hidle⟩ <| .intro ⟨hidle, hidle⟩ <| .intro hidle <| .intro ?_ trivial)
  · exact .execCmd (.send [ascii "GET", ascii "k"])
  · exact .execCmd (.select 1)
  · exact .call .commit rfl
  · exact .execCmd (.send [ascii "PING"])

end Client

end CppRedis
