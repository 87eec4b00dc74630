import CppRedis.Databases

/-!
# The session that a reconnection restores

What a server has accepted on a connection is its `Standing`: the password of the last
AUTH and the database of the last SELECT. `re_auth` and `re_select` know another one, that
of the last calls: `unprotected_auth` and `unprotected_select` save the password and the
index when the command is queued, and no reply ever corrects them. So a connection that is
opened again stands as the one that was dropped if and only if the two agree
(`restores_session_iff`).
-/

namespace CppRedis

open Text Procedure

/-- `reply::ok`. -/
def Reply.ok (r : Reply) : Bool :=
  !r.isError

/-! ## What a server has accepted -/

/-- The password after a command that is accepted, when it was `password` before. -/
def authenticated (password : Option Bytes) : Command → Option Bytes
  | [name, argument] => if name.map upper = ascii "AUTH" then some argument else password
  | _ => password

/-- The password of the last AUTH and the database of the last SELECT that a server has
accepted on a connection. A new connection has no password and database 0. -/
structure Standing where
  password : Option Bytes := none
  database : Int := 0
deriving DecidableEq

namespace Standing

/-- The server accepts a command. -/
def accept (s : Standing) (cmd : Command) : Standing where
  password := authenticated s.password cmd
  database := selected s.database cmd

/-- What a new connection must be sent for it to stand like this. -/
def commands (s : Standing) : List Command :=
  (s.password.map fun password => [ascii "AUTH", password]).toList ++
    if s.database = 0 then [] else [[ascii "SELECT", decimalInt s.database]]

theorem accept_auth (s : Standing) (password : Bytes) :
    s.accept [ascii "AUTH", password] = { s with password := some password } := by
  have hdatabase : selected s.database [ascii "AUTH", password] = s.database := selected_other _ rfl
  unfold accept
  rw [hdatabase]
  rfl

theorem accept_select (s : Standing) (index : Int) :
    s.accept [ascii "SELECT", decimalInt index] = { s with database := index } := by
  unfold accept
  rw [selected_select]
  rfl

/-- It does not matter that they are written twice. -/
theorem foldl_commands (s : Standing) : (s.commands ++ s.commands).foldl accept {} = s := by
  obtain ⟨password, database⟩ := s
  unfold commands
  cases password with
  | none =>
    by_cases h : database = 0
    · simp [h]
    · simp [h, accept_select]
  | some password =>
    by_cases h : database = 0
    · simp [h, accept_auth]
    · simp [h, accept_auth, accept_select]

theorem auth_mem_commands {s : Standing} {password : Bytes} :
    [ascii "AUTH", password] ∈ s.commands ↔ s.password = some password := by
  have hname : ascii "AUTH" ≠ ascii "SELECT" := by decide
  unfold commands
  rw [List.mem_append, Option.mem_toList, Option.map_eq_some_iff]
  constructor
  · rintro (⟨password', hpassword, heq⟩ | hmem)
    · cases heq
      exact hpassword
    · split at hmem
      · cases hmem
      · exact absurd (List.cons.inj (List.mem_singleton.mp hmem)).1 hname
  · intro hpassword
    exact .inl ⟨password, hpassword, rfl⟩

theorem select_mem_commands {s : Standing} {index : Int} :
    [ascii "SELECT", decimalInt index] ∈ s.commands ↔ s.database ≠ 0 ∧ s.database = index := by
  have hname : ascii "AUTH" ≠ ascii "SELECT" := by decide
  unfold commands
  rw [List.mem_append, Option.mem_toList, Option.map_eq_some_iff]
  constructor
  · rintro (⟨password', -, heq⟩ | hmem)
    · exact absurd (List.cons.inj heq).1 hname
    · split at hmem
      · cases hmem
      · next h =>
        have hindex := (List.cons.inj (List.cons.inj (List.mem_singleton.mp hmem)).2).1
        have hread := congrArg readInt hindex
        rw [readInt_decimalInt, readInt_decimalInt] at hread
        exact ⟨h, (Option.some.inj hread).symm⟩
  · rintro ⟨hzero, rfl⟩
    rw [if_neg hzero]
    exact .inr (List.mem_singleton.mpr rfl)

/-- The commands tell the standing. -/
theorem eq_of_commands {s t : Standing} (h : ∀ cmd, cmd ∈ s.commands ↔ cmd ∈ t.commands) :
    s = t := by
  have hpassword : s.password = t.password := by
    apply Option.ext
    intro password
    rw [← auth_mem_commands, h, auth_mem_commands]
  have hdatabase (index : Int) :
      s.database ≠ 0 ∧ s.database = index ↔ t.database ≠ 0 ∧ t.database = index := by
    rw [← select_mem_commands, h, select_mem_commands]
  have hsame : s.database = t.database := by
    by_cases hs : s.database = 0
    · by_contra hne
      have := (hdatabase t.database).mpr ⟨fun ht => hne (hs.trans ht.symm), rfl⟩
      exact this.1 hs
    · exact ((hdatabase s.database).mp ⟨hs, rfl⟩).2.symm
  obtain ⟨password, database⟩ := s
  obtain ⟨password', database'⟩ := t
  simp_all

end Standing

/-! ## Calls and their answers -/

namespace Issue

variable {κ : Type}

/-- The password that is saved, when it was `password` before. -/
def password (password : Bytes) : Issue κ → Bytes
  | .auth password' _ => password'
  | _ => password

/-- The password of the last call of `auth`, none counting as empty. -/
def lastPassword (issues : List (Issue κ)) : Bytes :=
  issues.foldl Issue.password []

/-- The standing that the last calls ask for, whatever they were answered. An empty
password and an index that is not positive ask for nothing. -/
def given (issues : List (Issue κ)) : Standing where
  password := if lastPassword issues = [] then none else some (lastPassword issues)
  database := Client.reselected (designated issues)

end Issue

namespace Client

variable {κ : Type}

/-- The replies of a run, in order. -/
def repliesOf (steps : List (PipelineStep κ)) : List Reply :=
  steps.filterMap fun
    | .reply r => some r
    | _ => none

/-- Every reply comes when a command is pending, of which there are some before the run,
and none is pending after it. -/
def Answered : List (PipelineStep κ) → Nat → Prop
  | [], pending => pending = 0
  | .issue _ :: steps, pending => Answered steps (pending + 1)
  | .commit :: steps, pending => Answered steps pending
  | .reply _ :: steps, pending => 0 < pending ∧ Answered steps (pending - 1)

/-- What the server has accepted in a run: its replies come in the order of the commands. -/
def standing (steps : List (PipelineStep κ)) : Standing :=
  ((issuesOf steps).zip (repliesOf steps)).foldl
    (fun s answer => if answer.2.ok then s.accept answer.1.request.command else s) {}

namespace Pipelined

variable {issues : List (Issue κ)} {c : Client κ}

/-- A step saves a password if it is a call of `auth`. -/
theorem password_step (h : Pipelined issues c) (step : PipelineStep κ) :
    (step.run c).password = (issuesOf [step]).foldl Issue.password c.password := by
  cases step with
  | issue i => cases i <;> rfl
  | commit =>
    show (after Client.commit c).password = c.password
    rw [after_commit h.reconnecting h.connected]
    rfl
  | reply r =>
    show (after (connectionReceiveHandler none r) c).password = c.password
    rw [after_receive]
    rfl

theorem password_run (h : Pipelined issues c) (steps : List (PipelineStep κ)) :
    (steps.foldl PipelineStep.run c).password = (issuesOf steps).foldl Issue.password c.password := by
  induction steps generalizing issues c with
  | nil => rfl
  | cons step steps ih =>
    rw [List.foldl_cons, ih (h.step step), h.password_step step, ← List.foldl_append,
      ← issuesOf_cons]

/-- A step leaves as many commands pending as it should. -/
theorem answered_step (h : Pipelined issues c) {step : PipelineStep κ}
    {steps : List (PipelineStep κ)} (hs : Answered (step :: steps) c.commands.length) :
    Answered steps (step.run c).commands.length := by
  cases step with
  | issue i =>
    have hlength : (i.run c).commands.length = c.commands.length + 1 := by
      cases i <;> exact List.length_append
    show Answered steps (i.run c).commands.length
    rw [hlength]
    exact hs
  | commit =>
    show Answered steps (after Client.commit c).commands.length
    rw [after_commit h.reconnecting h.connected]
    exact hs
  | reply r =>
    show Answered steps (after (connectionReceiveHandler none r) c).commands.length
    rw [after_receive]
    have hlength : (c.answerFront r).countDown.commands.length = c.commands.length - 1 :=
      List.length_tail
    rw [hlength]
    exact hs.2

/-- When every command was answered the queue is empty. -/
theorem answered_run (h : Pipelined issues c) {steps : List (PipelineStep κ)}
    (hs : Answered steps c.commands.length) : (steps.foldl PipelineStep.run c).commands = [] := by
  induction steps generalizing issues c with
  | nil => exact List.length_eq_zero_iff.mp hs
  | cons step steps ih => exact ih (h.step step) (h.answered_step hs)

end Pipelined

/-! ## The reconnection -/

/-- What `re_auth` and `re_select` send is what the saved password and index ask for. -/
theorem commandsOf_restored {c : Client κ} {s : Standing}
    (hpassword : s.password = if c.password = [] then none else some c.password)
    (hdatabase : s.database = reselected c.databaseIndex) : commandsOf c.restored = s.commands := by
  unfold restored Standing.commands
  rw [hpassword, hdatabase]
  unfold reselected commandsOf
  by_cases hp : c.password = [] <;> by_cases hi : c.databaseIndex ≤ 0
  · simp [hp, hi]
  · have : c.databaseIndex ≠ 0 := fun h => hi (Int.le_of_eq h)
    simp [hp, hi, this]
  · simp [hp, hi]
  · have : c.databaseIndex ≠ 0 := fun h => hi (Int.le_of_eq h)
    simp [hp, hi, this]

/-- The new connection was sent the AUTH and the SELECT of a standing and no others, and a
server that accepts them lets it stand so. -/
def Restores (s : Standing) (c : Client κ) : Prop :=
  ∃ cmds, decodeCommands c.client.client.written = some cmds ∧
    (∀ cmd, cmd ∈ cmds ↔ cmd ∈ s.commands) ∧ cmds.foldl Standing.accept {} = s

/-- A reconnection after calls that were all answered restores what the server accepted if
and only if that is what the last call of `auth` and the last call of `select` asked for. -/
theorem restores_session_iff {notify : Notification → EStateM Fault (Client κ) Unit}
    (hq : Quiet notify) (hn : ∀ n c, n.state = .dropped → notify n c = .ok () c)
    {c₀ c' : Client κ} (hfresh : Fresh c₀) (hpassword : c₀.password = [])
    {steps : List (PipelineStep κ)} (hanswered : Answered steps 0) {attempts : List Attempt}
    (h : drop notify id id attempts (steps.foldl PipelineStep.run c₀) = .ok true c')
    (hc' : c'.client.client.connected = true) :
    Restores (standing steps) c' ↔ standing steps = Issue.given (issuesOf steps) := by
  have hanswered : Answered steps c₀.commands.length := by
    rw [hfresh.commands]
    exact hanswered
  have hempty := hfresh.pipelined.answered_run hanswered
  have hsaved := hfresh.pipelined.password_run steps
  obtain ⟨-, hset, hr, -, hindex⟩ := hfresh.pipelined.run steps
  rw [List.nil_append] at hindex
  rw [hpassword] at hsaved
  generalize steps.foldl PipelineStep.run c₀ = c at h hempty hsaved hset hr hindex
  generalize issuesOf steps = issues at hsaved hindex ⊢
  have hrestored : commandsOf c.restored = (Issue.given issues).commands :=
    commandsOf_restored (by rw [hsaved]; rfl) (by rw [hindex]; rfl)
  have hwritten := drop_written hq
    (show ∀ n : Notification, n.state = .dropped → ∀ c, notify n c = .ok () (c.sendAll []) from
      fun n hd c => hn n c hd)
    hset hr (show drop notify (sendAll []) (sendAll []) attempts c = .ok true c' from h) hc'
  rw [duringDrop_nil, hempty, hrestored] at hwritten
  unfold Restores
  rw [hwritten, decodeCommands_encodeCommands]
  constructor
  · rintro ⟨cmds, hcmds, hmem, -⟩
    cases hcmds
    apply Standing.eq_of_commands
    intro cmd
    rw [← hmem cmd]
    simp [commandsOf]
  · intro heq
    refine ⟨_, rfl, ?_, ?_⟩
    · intro cmd
      rw [heq]
      simp [commandsOf]
    · rw [heq]
      simpa [commandsOf] using (Issue.given issues).foldl_commands

/-- A password and a database that the server accepts. -/
def authThenSelect : List (PipelineStep Nat) :=
  [.issue (.auth (ascii "p") none), .issue (.select 1 none), .commit,
    .reply (.ofString (ascii "OK") .simpleString), .reply (.ofString (ascii "OK") .simpleString)]

/-- A database that the server accepts, and one that it does not have. -/
def selectTooFar : List (PipelineStep Nat) :=
  [.issue (.select 1 none), .commit, .reply (.ofString (ascii "OK") .simpleString),
    .issue (.select 99 none), .commit,
    .reply (.ofString (ascii "ERR DB index is out of range") .error)]

theorem restores_session_iff_authThenSelect :
    Restores (standing authThenSelect)
        (after (drop silent id id [{ accepted := true }])
          (authThenSelect.foldl PipelineStep.run newClient)) ↔
      standing authThenSelect = Issue.given (issuesOf authThenSelect) :=
  restores_session_iff quiet_silent (fun _ _ _ => rfl) fresh_newClient rfl (by simp [Answered, authThenSelect])
    (eq_ok_of_value (by decide +kernel)) (by decide +kernel)

/-- After `selectTooFar` the session is in database 1, and the new connection is sent
SELECT 99. -/
theorem not_restores_session :
    ¬ ∀ (c₀ c' : Client Nat) (steps : List (PipelineStep Nat)) (attempts : List Attempt), Fresh c₀ →
      c₀.password = [] → Answered steps 0 →
      drop silent id id attempts (steps.foldl PipelineStep.run c₀) = .ok true c' →
      c'.client.client.connected = true → Restores (standing steps) c' := by
  intro h
  obtain ⟨cmds, hcmds, -, hstanding⟩ := h newClient _ selectTooFar [{ accepted := true }]
    fresh_newClient rfl (by simp [Answered, selectTooFar]) (eq_ok_of_value (by decide +kernel))
    (by decide +kernel)
  have hdecode : decodeCommands (after (drop silent id id [{ accepted := true }])
      (selectTooFar.foldl PipelineStep.run newClient)).client.client.written =
        some [[ascii "SELECT", ascii "99"], [ascii "SELECT", ascii "99"]] := by
    decide +kernel
  cases hcmds.symm.trans hdecode
  exact absurd hstanding (by decide +kernel)

end Client

end CppRedis
