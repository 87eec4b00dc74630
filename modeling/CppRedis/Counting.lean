import CppRedis.Client
import CppRedis.Lib.Machine
import Mathlib.Data.List.Perm.Basic
import Mathlib.Data.List.ReduceOption

/-!
# The count of running callbacks

`sync_commit` waits until `m_callbacks_running` is zero and `m_commands` is empty. Three
kinds of threads share the counter: those in `connection_receive_handler` count up and
down once for each reply, `clear_callbacks` counts a whole queue up at once, and its
detached thread counts the entries down one by one.

* `Workers`: a client, and where each thread is.
* `Counted`: the counter is the number of what is still to be counted down, modulo `2 ^ 32`,
  and no entry is lost between the places where it can be.
* `counted`: so it is in every run of any number of threads. With fewer than `2 ^ 32` entries
  in flight, what `sync_commit` waits for means that every callback has run.
-/

namespace CppRedis

open Text

namespace Client

variable {κ : Type}

/-- What `sync_commit` waits for. -/
def Done (c : Client κ) : Prop :=
  c.callbacksRunning = 0 ∧ c.commands = []

/-! ## Steps -/

/-- A client and its threads. `handlers` are the receive handlers that have counted up, with
the entry that they popped, if there was one; `returning` are those that have called its
callback. `called` are the failure threads that have called the callback at the front of
their queue, with its entry. `completed` are the entries whose callbacks have returned. -/
structure Workers (κ : Type) where
  client : Client κ
  handlers : List (Option (CommandRequest κ)) := []
  returning : List (Option (CommandRequest κ)) := []
  called : List (Nat × CommandRequest κ) := []
  completed : List (CommandRequest κ) := []

namespace Workers

/-- The steps. `popped`, `handled` and `countDown` are the three parts of the `i`-th handler;
`failed` and `countFailed` are those of a turn of the `i`-th failure thread. What a callback
calls before it returns is a step of its own. -/
inductive Event (κ : Type)
  | send (redisCmd : Command) (callback : Option κ)
  | clearCallbacks
  | popped (reply : Reply)
  | handled (i : Nat)
  | countDown (i : Nat)
  | failed (i : Nat)
  | countFailed (i : Nat)

/-- The entry at the front of the queue of the `i`-th failure thread. -/
def front (w : Workers κ) (i : Nat) : Option (CommandRequest κ) :=
  (w.client.failureThreads[i]?).bind List.head?

def Enabled (w : Workers κ) : Event κ → Prop
  | .handled i => i < w.handlers.length
  | .countDown i => i < w.returning.length
  | .failed i => (w.front i).isSome = true ∧ i ∉ w.called.map Prod.fst
  | .countFailed i => i ∈ w.called.map Prod.fst
  | _ => True

instance (w : Workers κ) : (e : Event κ) → Decidable (Enabled w e)
  | .handled _ => inferInstanceAs (Decidable (_ < _))
  | .countDown _ => inferInstanceAs (Decidable (_ < _))
  | .failed _ => inferInstanceAs (Decidable (_ ∧ _))
  | .countFailed _ => inferInstanceAs (Decidable (_ ∈ _))
  | .send _ _ => .isTrue trivial
  | .clearCallbacks => .isTrue trivial
  | .popped _ => .isTrue trivial

/-- A failure thread pops the entry that it has counted down. -/
def popFront (i : Nat) (c : Client κ) : Client κ :=
  { c with failureThreads := c.failureThreads.modify i List.tail }

def step (w : Workers κ) : Event κ → Workers κ
  | .send redisCmd callback => { w with client := w.client.send redisCmd callback }
  | .clearCallbacks => { w with client := w.client.clearCallbacks }
  | .popped reply =>
    { w with client := w.client.popCommand reply, handlers := w.handlers ++ [w.client.commands.head?] }
  | .handled i =>
    let request := (w.handlers[i]?).join
    { w with
      handlers := w.handlers.eraseIdx i
      returning := w.returning ++ [request]
      completed := w.completed ++ request.toList }
  | .countDown i => { w with client := w.client.countDown, returning := w.returning.eraseIdx i }
  | .failed i =>
    match w.front i with
    | none => w
    | some request =>
      { w with called := w.called ++ [(i, request)], completed := w.completed ++ [request] }
  | .countFailed i =>
    { w with
      client := popFront i w.client.countDown
      called := w.called.eraseP fun entry => entry.1 = i }

/-- A client and its threads, in any order. -/
def machine : Machine (Workers κ) (Event κ) :=
  ⟨Enabled, step⟩

instance (w : Workers κ) (e : Event κ) : Decidable (machine.enabled w e) :=
  inferInstanceAs (Decidable (Enabled w e))

/-- What is still to be counted down. -/
def inFlight (w : Workers κ) : Nat :=
  w.handlers.length + w.returning.length + w.client.failureThreads.flatten.length

/-- The entries of it. -/
def entriesInFlight (w : Workers κ) : Nat :=
  (w.handlers ++ w.returning).reduceOption.length + w.client.failureThreads.flatten.length

/-- Whether it counts down. -/
def Event.countsDown : Event κ → Bool
  | .countDown _ => true
  | .countFailed _ => true
  | _ => false

/-! ## The invariant -/

/-- The counter, and where the entries are: a callback that has run is counted down later on,
so a failure thread that has called one still has its entry. -/
structure Counted (w : Workers κ) : Prop where
  running : w.client.callbacksRunning = .ofNat w.inFlight
  entries : (w.client.pushed ++ w.called.map Prod.snd).Perm
    (w.completed ++ (w.handlers.reduceOption ++ (w.client.failureThreads.flatten ++ w.client.commands)))
  called : ∀ i request, (i, request) ∈ w.called → w.front i = some request
  nodup : (w.called.map Prod.fst).Nodup

/-- Counting down what was counted up. -/
theorem ofNat_succ_sub_one (n : Nat) : UInt32.ofNat (n + 1) - 1 = .ofNat n := by
  rw [UInt32.ofNat_add]
  exact UInt32.add_sub_cancel _ _

/-- The queue of one thread loses its front. -/
theorem flatten_modify_tail_perm {α : Type} {xss : List (List α)} {i : Nat} {x : α}
    (h : xss[i]?.bind List.head? = some x) :
    xss.flatten.Perm (x :: (xss.modify i List.tail).flatten) := by
  induction xss generalizing i with
  | nil => cases h
  | cons xs xss ih =>
    cases i with
    | zero =>
      cases xs with
      | nil => cases h
      | cons y ys =>
        cases h
        exact .refl _
    | succ i =>
      rw [List.getElem?_cons_succ] at h
      rw [List.modify_succ_cons, List.flatten_cons, List.flatten_cons]
      exact ((ih h).append_left xs).trans List.perm_middle

theorem Counted.new (s : Session) : Counted ({ client := { toSession := s } } : Workers κ) where
  running := rfl
  entries := .refl _
  called _ _ h := absurd h List.not_mem_nil
  nodup := List.nodup_nil

theorem Counted.send {w : Workers κ} (h : Counted w) (redisCmd : Command) (callback : Option κ) :
    Counted (machine.step w (.send redisCmd callback)) where
  running := h.running
  entries := by
    show (w.client.pushed ++ [_] ++ w.called.map Prod.snd).Perm
      (w.completed ++ (w.handlers.reduceOption ++
        (w.client.failureThreads.flatten ++ (w.client.commands ++ [_]))))
    rw [List.append_assoc]
    refine (List.perm_append_comm.append_left _).trans ?_
    simp only [← List.append_assoc]
    refine .append_right _ ?_
    simp only [List.append_assoc]
    exact h.entries
  called := h.called
  nodup := h.nodup

theorem Counted.clearCallbacks {w : Workers κ} (h : Counted w) :
    Counted (machine.step w .clearCallbacks) := by
  show Counted { w with client := w.client.clearCallbacks }
  unfold Client.clearCallbacks
  split
  · exact h
  · refine ⟨?_, ?_, ?_, h.nodup⟩
    · show w.client.callbacksRunning + .ofNat w.client.commands.length = .ofNat
        (w.handlers.length + w.returning.length + (w.client.failureThreads ++ [w.client.commands]).flatten.length)
      rw [h.running, ← UInt32.ofNat_add, List.flatten_append, List.flatten_singleton,
        List.length_append, ← Nat.add_assoc]
      rfl
    · show (w.client.pushed ++ w.called.map Prod.snd).Perm
        (w.completed ++ (w.handlers.reduceOption ++
          ((w.client.failureThreads ++ [w.client.commands]).flatten ++ [])))
      rw [List.flatten_append, List.flatten_singleton, List.append_nil]
      exact h.entries
    · intro i request hmem
      have hfront := h.called i request hmem
      unfold front at hfront ⊢
      obtain ⟨queue, hqueue, hhead⟩ := Option.bind_eq_some_iff.mp hfront
      obtain ⟨hlt, -⟩ := List.getElem?_eq_some_iff.mp hqueue
      show ((w.client.failureThreads ++ [w.client.commands])[i]?).bind List.head? = some request
      rw [List.getElem?_append_left hlt]
      exact hfront

theorem Counted.popped {w : Workers κ} (h : Counted w) (reply : Reply) :
    Counted (machine.step w (.popped reply)) where
  running := by
    show w.client.callbacksRunning + 1 = .ofNat
      ((w.handlers ++ [w.client.commands.head?]).length + w.returning.length +
        w.client.failureThreads.flatten.length)
    rw [h.running, List.length_append, List.length_singleton]
    have hone : w.handlers.length + 1 + w.returning.length + w.client.failureThreads.flatten.length =
        w.inFlight + 1 := by
      unfold inFlight
      omega
    rw [hone, UInt32.ofNat_add]
    rfl
  entries := by
    show (w.client.pushed ++ w.called.map Prod.snd).Perm
      (w.completed ++ ((w.handlers ++ [w.client.commands.head?]).reduceOption ++
        (w.client.failureThreads.flatten ++ w.client.commands.tail)))
    refine h.entries.trans (.append_left _ ?_)
    rw [List.reduceOption_append, List.append_assoc]
    refine .append_left _ ?_
    cases w.client.commands with
    | nil => exact .refl _
    | cons request rest => exact List.perm_middle
  called := h.called
  nodup := h.nodup

theorem Counted.handled {w : Workers κ} (h : Counted w) {i : Nat}
    (hi : machine.enabled w (.handled i)) : Counted (machine.step w (.handled i)) := by
  have hlt : i < w.handlers.length := hi
  have hget : (w.handlers[i]?).join = w.handlers[i] := by
    rw [List.getElem?_eq_getElem hlt]
    rfl
  have hperm : (w.handlers[i] :: w.handlers.eraseIdx i).Perm w.handlers :=
    List.getElem_cons_eraseIdx_perm hlt
  refine ⟨?_, ?_, h.called, h.nodup⟩
  · show w.client.callbacksRunning = .ofNat ((w.handlers.eraseIdx i).length +
      (w.returning ++ [_]).length + w.client.failureThreads.flatten.length)
    rw [h.running, List.length_append, List.length_singleton]
    refine congrArg UInt32.ofNat ?_
    have hlength := hperm.length_eq
    rw [List.length_cons] at hlength
    unfold inFlight
    omega
  · show (w.client.pushed ++ w.called.map Prod.snd).Perm
      (w.completed ++ (w.handlers[i]?).join.toList ++ ((w.handlers.eraseIdx i).reduceOption ++
        (w.client.failureThreads.flatten ++ w.client.commands)))
    have hhandlers : w.handlers.reduceOption.Perm
        (w.handlers[i].toList ++ (w.handlers.eraseIdx i).reduceOption) := by
      refine (hperm.symm.filterMap id).trans ?_
      cases w.handlers[i] <;> exact .refl _
    rw [hget, List.append_assoc, ← List.append_assoc _ _ (_ ++ w.client.commands)]
    exact h.entries.trans (.append_left _ (hhandlers.append_right _))

theorem Counted.countDown {w : Workers κ} (h : Counted w) {i : Nat}
    (hi : machine.enabled w (.countDown i)) : Counted (machine.step w (.countDown i)) := by
  have hlt : i < w.returning.length := hi
  refine ⟨?_, h.entries, h.called, h.nodup⟩
  show w.client.callbacksRunning - 1 = .ofNat (w.handlers.length + (w.returning.eraseIdx i).length +
    w.client.failureThreads.flatten.length)
  have hone : w.inFlight = w.handlers.length + (w.returning.eraseIdx i).length +
      w.client.failureThreads.flatten.length + 1 := by
    rw [List.length_eraseIdx_of_lt hlt]
    unfold inFlight
    omega
  rw [h.running, hone, ofNat_succ_sub_one]

theorem Counted.failed {w : Workers κ} (h : Counted w) {i : Nat}
    (hi : machine.enabled w (.failed i)) : Counted (machine.step w (.failed i)) := by
  obtain ⟨hsome, hnew⟩ := hi
  obtain ⟨request, hfront⟩ := Option.isSome_iff_exists.mp hsome
  have hstep : machine.step w (.failed i) = { w with
      called := w.called ++ [(i, request)], completed := w.completed ++ [request] } := by
    show (match w.front i with
      | none => w
      | some request => _) = _
    rw [hfront]
  rw [hstep]
  refine ⟨h.running, ?_, ?_, ?_⟩
  · show (w.client.pushed ++ (w.called ++ [(i, request)]).map Prod.snd).Perm
      (w.completed ++ [request] ++ _)
    rw [List.map_append, ← List.append_assoc, List.append_assoc w.completed]
    refine List.perm_append_comm.trans ?_
    exact (h.entries.cons request).trans List.perm_middle.symm
  · intro j request' hmem
    rcases List.mem_append.mp hmem with hmem | hmem
    · exact h.called j request' hmem
    · cases List.mem_singleton.mp hmem
      exact hfront
  · show ((w.called ++ [(i, request)]).map Prod.fst).Nodup
    rw [List.map_append]
    exact (List.perm_append_comm.nodup_iff).mpr (List.nodup_cons.mpr ⟨hnew, h.nodup⟩)

theorem Counted.countFailed {w : Workers κ} (h : Counted w) {i : Nat}
    (hi : machine.enabled w (.countFailed i)) : Counted (machine.step w (.countFailed i)) := by
  obtain ⟨⟨j, request⟩, hmem, hj⟩ := List.mem_map.mp hi
  obtain ⟨⟨k, request⟩, before, later, -, hk, hcalled, herase⟩ :=
    List.exists_of_eraseP (p := fun entry => decide (entry.1 = i)) hmem (decide_eq_true hj)
  obtain rfl : k = i := of_decide_eq_true hk
  have hperm : w.called.Perm ((k, request) :: (before ++ later)) := hcalled ▸ List.perm_middle
  have hflatten := flatten_modify_tail_perm (h.called k request (hperm.mem_iff.mpr List.mem_cons_self))
  obtain ⟨hnew, hnodup⟩ := List.nodup_cons.mp ((hperm.map Prod.fst).nodup_iff.mp h.nodup)
  have hstep : machine.step w (.countFailed k) =
      { w with client := popFront k w.client.countDown, called := before ++ later } :=
    congrArg (fun called => { w with client := popFront k w.client.countDown, called := called }) herase
  rw [hstep]
  refine ⟨?_, ?_, ?_, hnodup⟩
  · show w.client.callbacksRunning - 1 = .ofNat (w.handlers.length + w.returning.length +
      (w.client.failureThreads.modify k List.tail).flatten.length)
    have hone : w.inFlight = w.handlers.length + w.returning.length +
        (w.client.failureThreads.modify k List.tail).flatten.length + 1 := by
      unfold inFlight
      rw [hflatten.length_eq]
      rfl
    rw [h.running, hone, ofNat_succ_sub_one]
  · show (w.client.pushed ++ (before ++ later).map Prod.snd).Perm
      (w.completed ++ (w.handlers.reduceOption ++
        ((w.client.failureThreads.modify k List.tail).flatten ++ w.client.commands)))
    -- the entry is on both sides: it was called, and was still in the queue of its thread
    have hleft : (w.client.pushed ++ w.called.map Prod.snd).Perm
        (request :: (w.client.pushed ++ (before ++ later).map Prod.snd)) :=
      ((hperm.map Prod.snd).append_left _).trans List.perm_middle
    have hqueues : (w.client.failureThreads.flatten ++ w.client.commands).Perm
        (request :: ((w.client.failureThreads.modify k List.tail).flatten ++ w.client.commands)) :=
      hflatten.append_right _
    have hright := ((hqueues.append_left w.handlers.reduceOption).trans List.perm_middle).append_left
      w.completed
    exact (hleft.symm.trans (h.entries.trans (hright.trans List.perm_middle))).cons_inv
  · intro j request' hmem
    have hne : k ≠ j := fun hkj => hnew (List.mem_map.mpr ⟨(j, request'), hmem, hkj.symm⟩)
    have hj := h.called j request' (hperm.mem_iff.mpr (List.mem_cons_of_mem _ hmem))
    unfold front at hj ⊢
    show ((w.client.failureThreads.modify k List.tail)[j]?).bind List.head? = some request'
    rw [List.getElem?_modify_ne _ _ hne]
    exact hj

/-! ## Runs -/

theorem Counted.step {w : Workers κ} (h : Counted w) (e : Event κ) (he : machine.enabled w e) :
    Counted (machine.step w e) := by
  cases e with
  | send redisCmd callback => exact h.send redisCmd callback
  | clearCallbacks => exact h.clearCallbacks
  | popped reply => exact h.popped reply
  | handled i => exact h.handled he
  | countDown i => exact h.countDown he
  | failed i => exact h.failed he
  | countFailed i => exact h.countFailed he

/-- A client that was made with any session, and no threads. -/
def start (s : Session) : Workers κ :=
  { client := { toSession := s } }

/-- In every state of every run, the counter is the number of receive handlers and failed
entries that were counted up and not down, modulo `2 ^ 32`. While there are fewer, no step
counts down from zero; and when what `sync_commit` waits for holds, the callbacks that have
returned are those of the entries ever pushed. -/
theorem counted (s : Session) (events : List (Event κ)) (h : machine.Possible (start s) events) :
    let w := machine.run (start s) events
    w.client.callbacksRunning = .ofNat w.inFlight ∧
      (w.inFlight < 2 ^ 32 → w.client.callbacksRunning.toNat = w.inFlight ∧
        (∀ e, machine.enabled w e → e.countsDown = true → w.client.callbacksRunning ≠ 0) ∧
        (w.client.Done → w.completed.Perm w.client.pushed)) := by
  intro w
  have hw : Counted w := h.invariant (fun w e hw he => hw.step e he) (.new s)
  refine ⟨hw.running, fun hlt => ?_⟩
  have hcount : w.client.callbacksRunning.toNat = w.inFlight := by
    rw [hw.running]
    exact UInt32.toNat_ofNat_of_lt hlt
  have hzero : w.client.callbacksRunning = 0 → w.inFlight = 0 := by
    intro hzero
    rw [← hcount, hzero]
    rfl
  refine ⟨hcount, fun e he hdown hrunning => ?_, fun hdone => ?_⟩
  · -- what counts down is in flight
    have hnone := hzero hrunning
    unfold inFlight at hnone
    cases e with
    | countDown i =>
      have hi : i < w.returning.length := he
      omega
    | countFailed i =>
      obtain ⟨⟨j, request⟩, hmem, -⟩ := List.mem_map.mp he
      have hfront := (flatten_modify_tail_perm (hw.called j request hmem)).length_eq
      rw [List.length_cons] at hfront
      omega
    | _ => cases hdown
  · -- nothing is in flight, and the queue is empty: the account has one entry left
    have hnone := hzero hdone.1
    unfold inFlight at hnone
    have hhandlers : w.handlers = [] := List.length_eq_zero_iff.mp (by omega)
    have hthreads : w.client.failureThreads.flatten = [] := List.length_eq_zero_iff.mp (by omega)
    have hcalled : w.called = [] := by
      refine List.eq_nil_iff_forall_not_mem.mpr fun entry hmem => ?_
      have hfront := flatten_modify_tail_perm (hw.called entry.1 entry.2 hmem)
      rw [hthreads] at hfront
      exact absurd hfront.symm.eq_nil (List.cons_ne_nil _ _)
    have hentries := hw.entries
    rw [hhandlers, hthreads, hcalled, hdone.2] at hentries
    simpa using hentries.symm

/-- A command fails, and another one is answered in the meantime. -/
theorem counted_failing :
    let events : List (Event Nat) :=
      [.send [] (some 1), .clearCallbacks, .send [] (some 2), .failed 0, .popped {}, .countFailed 0,
        .handled 0, .countDown 0]
    (machine.run (start {}) events).client.Done →
      (machine.run (start {}) events).completed.Perm (machine.run (start {}) events).client.pushed := by
  intro events
  exact ((counted {} events (by decide)).2 (by decide)).2.2

/-- Any number of commands are sent. -/
theorem run_sends (n : Nat) (w : Workers κ) (redisCmd : Command) (callback : Option κ) :
    let events := List.replicate n (Event.send redisCmd callback)
    machine.Possible w events ∧ (machine.run w events).client.callbacksRunning = w.client.callbacksRunning ∧
      (machine.run w events).client.commands.length = w.client.commands.length + n ∧
      (machine.run w events).client.pushed.length = w.client.pushed.length + n ∧
      (machine.run w events).completed = w.completed := by
  induction n generalizing w with
  | zero => exact ⟨trivial, rfl, rfl, rfl, rfl⟩
  | succ n ih =>
    obtain ⟨hpossible, hrunning, hcommands, hpushed, hcompleted⟩ :=
      ih (machine.step w (.send redisCmd callback))
    refine ⟨⟨trivial, hpossible⟩, hrunning, hcommands.trans ?_, hpushed.trans ?_, hcompleted⟩
    · show (w.client.commands ++ [_]).length + n = _
      rw [List.length_append, List.length_singleton]
      omega
    · show (w.client.pushed ++ [_]).length + n = _
      rw [List.length_append, List.length_singleton]
      omega

/-- If as many commands fail at once as the counter has values, it stays at zero. -/
theorem done_of_wrapped {n : Nat} (hn : UInt32.ofNat n = 0) (hpos : 0 < n) :
    let events := List.replicate n (Event.send [] none) ++ [.clearCallbacks]
    machine.Possible (start {} : Workers κ) events ∧
      (machine.run (start {} : Workers κ) events).client.Done ∧
      (machine.run (start {} : Workers κ) events).client.pushed.length = n ∧
      (machine.run (start {} : Workers κ) events).completed = [] := by
  intro events
  obtain ⟨hpossible, hrunning, hcommands, hpushed, hcompleted⟩ :=
    run_sends n (start {} : Workers κ) [] none
  have hrun : machine.run (start {} : Workers κ) events =
      machine.step (machine.run (start {}) (List.replicate n (.send [] none))) .clearCallbacks :=
    Machine.run_append _ _ _
  rw [hrun]
  refine ⟨Machine.possible_append.mpr ⟨hpossible, trivial, trivial⟩, ?_⟩
  generalize machine.run (start {} : Workers κ) (List.replicate n (.send [] none)) = w at *
  have hlength : w.client.commands.length = n := hcommands.trans (Nat.zero_add n)
  have hclear : w.client.clearCallbacks = { w.client with
      commands := []
      callbacksRunning := w.client.callbacksRunning + .ofNat w.client.commands.length
      failureThreads := w.client.failureThreads ++ [w.client.commands] } := by
    refine if_neg fun hempty => ?_
    rw [List.isEmpty_iff.mp hempty] at hlength
    exact absurd hlength (Nat.ne_of_lt hpos)
  have hstep : machine.step w .clearCallbacks = { w with client := w.client.clearCallbacks } := rfl
  rw [hstep, hclear]
  refine ⟨⟨?_, rfl⟩, hpushed.trans (Nat.zero_add n), hcompleted⟩
  show w.client.callbacksRunning + .ofNat w.client.commands.length = 0
  rw [hrunning, hlength, hn]
  rfl

/-- A reply that no command asked for is counted, although no entry was popped. And if
`2 ^ 32` commands fail, the counter is back at zero before any of their callbacks has run. -/
theorem not_counted :
    (¬ ∀ events : List (Event Nat), machine.Possible (start {}) events →
      (machine.run (start {}) events).client.callbacksRunning.toNat =
        (machine.run (start {}) events).entriesInFlight) ∧
    ¬ ∀ events : List (Event Nat), machine.Possible (start {}) events →
      (machine.run (start {}) events).client.Done →
        (machine.run (start {}) events).completed.Perm (machine.run (start {}) events).client.pushed := by
  constructor
  · intro h
    exact absurd (h [.popped {}] (by decide)) (by decide)
  · intro h
    obtain ⟨hpossible, hdone, hpushed, hcompleted⟩ :=
      @done_of_wrapped Nat (2 ^ 32) (by decide) (by decide)
    have hlength := (h _ hpossible hdone).length_eq
    rw [hpushed, hcompleted] at hlength
    exact absurd hlength (by decide)

end Workers

end Client

end CppRedis
