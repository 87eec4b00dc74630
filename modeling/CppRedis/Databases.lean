import CppRedis.Resend

/-!
# The database of a command that is sent again

A server keeps one selected database for each connection, 0 at first. A command
that is sent again after a reconnection runs in the database that the commands in
front of it on the new connection have selected; it should run in the one that
the issue order gives it. Between the two there is one difference: the new
connection starts where `re_select` puts it, and `re_select` takes the index of
the last select issued, which may come after the first pending command
(`resent_databases_iff`).
-/

namespace CppRedis

open Text Procedure

/-! ## The server -/

/-- ASCII upper case: command names are compared without regard to case. -/
def upper (c : Byte) : Byte :=
  if 97 ≤ c ∧ c ≤ 122 then c - 32 else c

/-- Whether a server takes the command for a SELECT. -/
def isSelect : Command → Bool
  | [] => false
  | name :: _ => name.map upper == ascii "SELECT"

/-- The database selected after a command, when it was `db` before; every SELECT
is accepted. -/
def selected (db : Int) (cmd : Command) : Int :=
  match isSelect cmd, cmd with
  | true, [_, index] => (readInt index).getD db
  | _, _ => db

theorem selected_select (db index : Int) : selected db [ascii "SELECT", decimalInt index] = index := by
  have hname : isSelect [ascii "SELECT", decimalInt index] = true := rfl
  simp only [selected, hname, readInt_decimalInt, Option.getD_some]

theorem selected_other (db : Int) {cmd : Command} (h : isSelect cmd = false) : selected db cmd = db := by
  unfold selected
  rw [h]

/-- The database after a list of commands on a new connection. -/
def databaseAfter (cmds : List Command) : Int :=
  cmds.foldl selected 0

/-! ## Issuing commands -/

/-- A command issued through the client: by `select`, by `auth`, or any other. -/
inductive Issue (κ : Type)
  | select (index : Int) (callback : Option κ)
  | auth (password : Bytes) (callback : Option κ)
  | other (cmd : Command) (callback : Option κ) (h : isSelect cmd = false)

namespace Issue

variable {κ : Type}

/-- The entry that is pushed. -/
def request : Issue κ → CommandRequest κ
  | .select index callback => ⟨[ascii "SELECT", decimalInt index], callback.map .user⟩
  | .auth password callback => ⟨[ascii "AUTH", password], callback.map .user⟩
  | .other cmd callback _ => ⟨cmd, callback.map .user⟩

def run (i : Issue κ) (c : Client κ) : Client κ :=
  match i with
  | .select index callback => c.select index callback
  | .auth password callback => c.auth password callback
  | .other cmd callback _ => c.send cmd callback

/-- The database that the issue order gives to the next command. -/
def database (db : Int) : Issue κ → Int
  | .select index _ => index
  | _ => db

/-- The database that the issue order gives to the command behind a list of issues. -/
def designated (issues : List (Issue κ)) : Int :=
  issues.foldl database 0

/-- A server that runs the commands of the issues selects what their order says. -/
theorem selected_request (db : Int) (i : Issue κ) : selected db i.request.command = i.database db := by
  cases i with
  | select index callback => exact selected_select db index
  | auth password callback => exact selected_other db rfl
  | other cmd callback h => exact selected_other db h

theorem selected_requests (db : Int) (issues : List (Issue κ)) :
    (Client.commandsOf (issues.map request)).foldl selected db = issues.foldl database db := by
  induction issues generalizing db with
  | nil => rfl
  | cons i issues ih =>
    show (Client.commandsOf (issues.map request)).foldl selected (selected db i.request.command) = _
    rw [selected_request, ih]
    rfl

end Issue

namespace Client

variable {κ : Type}

/-! ## Before the drop -/

/-- What happens on a connection before it is dropped: a command is issued, the
pipeline is committed, a reply arrives. -/
inductive PipelineStep (κ : Type)
  | issue (i : Issue κ)
  | commit
  | reply (r : Reply)

def PipelineStep.run (c : Client κ) : PipelineStep κ → Client κ
  | .issue i => i.run c
  | .commit => after Client.commit c
  | .reply r => after (connectionReceiveHandler none r) c

/-- The issues of a run, in order. -/
def issuesOf (steps : List (PipelineStep κ)) : List (Issue κ) :=
  steps.filterMap fun
    | .issue i => some i
    | _ => none

/-- A new connection of a client that has issued nothing yet. -/
structure Fresh (c : Client κ) : Prop where
  connected : c.client.client.connected = true
  handler : c.client.disconnectionHandler = true
  reconnecting : c.reconnecting = false
  commands : c.commands = []
  databaseIndex : c.databaseIndex = 0

/-- The queue holds the last of the commands issued, and the saved index is that
of the last select. -/
structure Pipelined (issues : List (Issue κ)) (c : Client κ) : Prop where
  connected : c.client.client.connected = true
  handler : c.client.disconnectionHandler = true
  reconnecting : c.reconnecting = false
  commands : ∃ n, n ≤ issues.length ∧ c.commands = (issues.drop n).map Issue.request
  databaseIndex : c.databaseIndex = Issue.designated issues

theorem Fresh.pipelined {c : Client κ} (h : Fresh c) : Pipelined [] c :=
  ⟨h.connected, h.handler, h.reconnecting, ⟨0, Nat.le_refl _, h.commands⟩, h.databaseIndex⟩

theorem after_commit {c : Client κ} (hr : c.reconnecting = false)
    (hc : c.client.client.connected = true) :
    after Client.commit c = connection.update RedisConnection.flush c :=
  after_ok ((commit_eq_tryCommit hr).trans (tryCommit_connected hc))

/-- A reply whose callback does nothing. -/
theorem after_receive (r : Reply) (c : Client κ) :
    after (connectionReceiveHandler none r) c = (c.answerFront r).countDown := by
  have hreact (callback : Option (Callback κ)) (c : Client κ) :
      react callback (pure ()) c = .ok () c := by
    cases callback with
    | none => rfl
    | some callback => cases callback <;> rfl
  exact after_bind_ok (hreact _ (c.answerFront r)) fun _ => modify countDown

theorem issuesOf_cons (step : PipelineStep κ) (steps : List (PipelineStep κ)) :
    issuesOf (step :: steps) = issuesOf [step] ++ issuesOf steps := by
  rw [issuesOf, issuesOf, issuesOf, ← List.filterMap_append]
  rfl

/-- One step: an issue is appended to the queue, a reply takes one from its front. -/
theorem Pipelined.step {issues : List (Issue κ)} {c : Client κ} (h : Pipelined issues c)
    (step : PipelineStep κ) : Pipelined (issues ++ issuesOf [step]) (step.run c) := by
  obtain ⟨hc, hh, hr, ⟨n, hn, hcommands⟩, hi⟩ := h
  cases step with
  | issue i =>
    have hqueue : c.commands ++ [i.request] = ((issues ++ [i]).drop n).map Issue.request := by
      rw [List.drop_append_of_le_length hn, List.map_append, hcommands]
      rfl
    have hn' : n ≤ (issues ++ [i]).length := by
      rw [List.length_append]
      omega
    have hdb : Issue.designated (issues ++ [i]) = i.database c.databaseIndex := by
      rw [hi]
      exact List.foldl_append
    show Pipelined (issues ++ [i]) (i.run c)
    cases i with
    | select index callback => exact ⟨hc, hh, hr, ⟨n, hn', hqueue⟩, hdb.symm⟩
    | auth password callback => exact ⟨hc, hh, hr, ⟨n, hn', hqueue⟩, hdb.symm⟩
    | other cmd callback h => exact ⟨hc, hh, hr, ⟨n, hn', hqueue⟩, hdb.symm⟩
  | commit =>
    have hissues : issues ++ issuesOf [PipelineStep.commit] = issues := List.append_nil issues
    rw [hissues]
    show Pipelined issues (after Client.commit c)
    rw [after_commit hr hc]
    exact ⟨hc, hh, hr, ⟨n, hn, hcommands⟩, hi⟩
  | reply r =>
    have hissues : issues ++ issuesOf [PipelineStep.reply r] = issues := List.append_nil issues
    rw [hissues]
    show Pipelined issues (after (connectionReceiveHandler none r) c)
    rw [after_receive]
    refine ⟨hc, hh, hr, ?_, hi⟩
    have htail : (c.answerFront r).countDown.commands = (issues.drop (n + 1)).map Issue.request := by
      show c.commands.tail = _
      rw [hcommands, ← List.map_tail, List.tail_drop]
    -- a reply that nothing waits for leaves the empty queue as it is
    rcases Nat.lt_or_ge n issues.length with hlt | hge
    · exact ⟨n + 1, hlt, htail⟩
    · refine ⟨n, hn, htail.trans ?_⟩
      rw [List.drop_eq_nil_of_le hge, List.drop_eq_nil_of_le (Nat.le_succ_of_le hge)]

theorem Pipelined.run {issues : List (Issue κ)} {c : Client κ} (h : Pipelined issues c)
    (steps : List (PipelineStep κ)) :
    Pipelined (issues ++ issuesOf steps) (steps.foldl PipelineStep.run c) := by
  induction steps generalizing issues c with
  | nil =>
    rw [issuesOf, List.filterMap_nil, List.append_nil]
    exact h
  | cons step steps ih =>
    rw [issuesOf_cons, ← List.append_assoc]
    exact ih (h.step step)

/-! ## After the reconnection -/

/-- Every pending command that is sent again runs in the database that the issue
order gives it. On the new connection the pending commands stand behind what
`re_auth` and `re_select` have written. -/
def RunInPlace (issues : List (Issue κ)) (c : Client κ) (cmds : List Command) : Prop :=
  ∀ j < c.commands.length,
    databaseAfter (cmds.take (c.restored.length + j)) =
      Issue.designated (issues.take (issues.length - c.commands.length + j))

/-- Where `re_select` puts a new connection. -/
def reselected (index : Int) : Int :=
  if index ≤ 0 then 0 else index

theorem databaseAfter_restored (c : Client κ) :
    databaseAfter (commandsOf c.restored) = reselected c.databaseIndex := by
  have hauth : selected 0 [ascii "AUTH", c.password] = 0 := selected_other 0 rfl
  have hselect := selected_select 0 c.databaseIndex
  unfold databaseAfter restored reselected
  cases hp : c.password.isEmpty <;> by_cases hi : c.databaseIndex ≤ 0
  all_goals simp [hi, commandsOf, hauth, hselect]

/-- On the new connection, the `j`-th pending command runs where the pending ones
before it lead from where `re_select` put the connection. -/
theorem databaseAfter_pending {c : Client κ} {issues : List (Issue κ)} {n j : Nat}
    (hcommands : c.commands = (issues.drop n).map Issue.request) (hj : j ≤ c.commands.length) :
    databaseAfter ((commandsOf c.restored ++ (commandsOf c.commands ++ commandsOf c.restored)).take
        (c.restored.length + j)) =
      ((issues.drop n).take j).foldl Issue.database (reselected c.databaseIndex) := by
  have hlen : c.restored.length = (commandsOf c.restored).length := by simp [commandsOf]
  have hj' : j ≤ (commandsOf c.commands).length := by simpa [commandsOf] using hj
  have hpending : (commandsOf c.commands).take j =
      commandsOf (((issues.drop n).take j).map Issue.request) := by
    rw [hcommands, commandsOf, commandsOf, List.map_take, List.map_take]
  rw [hlen, List.take_length_add_append, List.take_append_of_le_length hj', hpending]
  have hstart := databaseAfter_restored c
  unfold databaseAfter at hstart ⊢
  rw [List.foldl_append, hstart, Issue.selected_requests]

/-- The issue order, from the first pending command on. -/
theorem designated_take_add (issues : List (Issue κ)) (n j : Nat) :
    Issue.designated (issues.take (n + j)) =
      ((issues.drop n).take j).foldl Issue.database (Issue.designated (issues.take n)) := by
  unfold Issue.designated
  rw [List.take_add, List.foldl_append]

/-- On a client that is connected again, the pending commands run in the databases
they were issued for if and only if there are none, or `re_select` has selected
the database of the first one: the index of the last select issued before it is
that of the last select issued at all (no index above 0 counting as 0). -/
theorem resent_databases_iff {notify : Notification → EStateM Fault (Client κ) Unit}
    (hq : Quiet notify) (hn : ∀ n c, n.state = .dropped → notify n c = .ok () c)
    {c₀ c' : Client κ} (hfresh : Fresh c₀) (steps : List (PipelineStep κ)) {attempts : List Attempt}
    (h : drop notify id id attempts (steps.foldl PipelineStep.run c₀) = .ok true c')
    (hc' : c'.client.client.connected = true) :
    (∃ cmds, decodeCommands c'.client.client.written = some cmds ∧
        RunInPlace (issuesOf steps) (steps.foldl PipelineStep.run c₀) cmds) ↔
      (steps.foldl PipelineStep.run c₀).commands = [] ∨
        Issue.designated ((issuesOf steps).take
            ((issuesOf steps).length - (steps.foldl PipelineStep.run c₀).commands.length)) =
          reselected (Issue.designated (issuesOf steps)) := by
  obtain ⟨-, hset, hr, ⟨n, hn', hcommands⟩, hindex⟩ := hfresh.pipelined.run steps
  rw [List.nil_append] at hn' hcommands hindex
  generalize steps.foldl PipelineStep.run c₀ = c at h hset hr hcommands hindex ⊢
  generalize issuesOf steps = issues at hn' hcommands hindex ⊢
  have hwritten := drop_written hq
    (show ∀ n : Notification, n.state = .dropped → ∀ c, notify n c = .ok () (c.sendAll []) from
      fun n hd c => hn n c hd)
    hset hr (show drop notify (sendAll []) (sendAll []) attempts c = .ok true c' from h) hc'
  rw [duringDrop_nil] at hwritten
  simp only [List.map_nil, List.nil_append, List.append_nil] at hwritten
  have hcount : issues.length - c.commands.length = n := by
    rw [hcommands, List.length_map, List.length_drop]
    omega
  rw [hwritten, decodeCommands_encodeCommands, hcount, ← hindex]
  constructor
  · rintro ⟨cmds, hcmds, hrun⟩
    cases hcmds
    by_cases hnone : c.commands = []
    · exact .inl hnone
    · -- the first pending command shows where the new connection starts
      have h₀ := hrun 0 (List.length_pos_iff.mpr hnone)
      rw [databaseAfter_pending hcommands (Nat.zero_le _), hcount, designated_take_add] at h₀
      exact .inr h₀.symm
  · intro hstart
    refine ⟨_, rfl, ?_⟩
    intro j hj
    rw [databaseAfter_pending hcommands (Nat.le_of_lt hj), hcount, designated_take_add]
    rcases hstart with hnone | hsame
    · rw [hnone] at hj
      cases hj
    · rw [hsame]

/-- A new connection of a client that may reconnect once. -/
def newClient : Client Nat where
  maxReconnects := 1
  client := { client := { connected := true, reads := 1 }
              replyCallback := true
              disconnectionHandler := true }

theorem fresh_newClient : Fresh newClient :=
  ⟨rfl, rfl, rfl, rfl, rfl⟩

/-- GET, issued in database 1 and pending when the connection was dropped. -/
def selectThenGet : List (PipelineStep Nat) :=
  [.issue (.select 1 none), .commit, .reply (.ofString (ascii "OK") .simpleString),
    .issue (.other [ascii "GET", ascii "k"] (some 0) rfl)]

/-- GET, issued in database 0 and pending with the SELECT behind it. -/
def getThenSelect : List (PipelineStep Nat) :=
  [.issue (.other [ascii "GET", ascii "k"] (some 0) rfl), .issue (.select 1 none), .commit]

theorem resent_databases_iff_selectThenGet :
    (∃ cmds, decodeCommands (after (drop silent id id [{ accepted := true }])
          (selectThenGet.foldl PipelineStep.run newClient)).client.client.written = some cmds ∧
        RunInPlace (issuesOf selectThenGet) (selectThenGet.foldl PipelineStep.run newClient) cmds) ↔
      (selectThenGet.foldl PipelineStep.run newClient).commands = [] ∨
        Issue.designated ((issuesOf selectThenGet).take ((issuesOf selectThenGet).length -
            (selectThenGet.foldl PipelineStep.run newClient).commands.length)) =
          reselected (Issue.designated (issuesOf selectThenGet)) :=
  resent_databases_iff quiet_silent (fun _ _ _ => rfl) fresh_newClient selectThenGet
    (eq_ok_of_value (by decide +kernel)) (by decide +kernel)

/-- The pending GET of `getThenSelect` was issued in database 0 and runs in database 1. -/
theorem not_resent_databases :
    ¬ ∀ (c₀ c' : Client Nat) (steps : List (PipelineStep Nat)) (attempts : List Attempt), Fresh c₀ →
      drop silent id id attempts (steps.foldl PipelineStep.run c₀) = .ok true c' →
      c'.client.client.connected = true →
      ∃ cmds, decodeCommands c'.client.client.written = some cmds ∧
        RunInPlace (issuesOf steps) (steps.foldl PipelineStep.run c₀) cmds := by
  intro h
  obtain ⟨cmds, hcmds, hrun⟩ := h newClient _ getThenSelect [{ accepted := true }] fresh_newClient
    (eq_ok_of_value (by decide +kernel)) (by decide +kernel)
  have hdecode : decodeCommands (after (drop silent id id [{ accepted := true }])
      (getThenSelect.foldl PipelineStep.run newClient)).client.client.written =
        some [[ascii "SELECT", ascii "1"], [ascii "GET", ascii "k"], [ascii "SELECT", ascii "1"],
          [ascii "SELECT", ascii "1"]] := by
    decide +kernel
  cases hcmds.symm.trans hdecode
  exact absurd (hrun 0 (by decide +kernel)) (by decide +kernel)

end Client

end CppRedis
