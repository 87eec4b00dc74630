import CppRedis.Lib.Text

/-!
# Commands

A command is a `std::vector<std::string>`; `buildCommand` writes it as an array
of bulk strings. `decodeCommands` is the reader at the other end, written from
the format and not from the code: it is how the bytes on a connection, or in a
send buffer, are counted as commands (`decodeCommands_encodeCommands`).
-/

namespace CppRedis

open Text

/-- A command and its arguments. -/
abbrev Command := List Bytes

/-! ## Writing -/

/-- One turn of the loop of `build_command`. -/
def buildPart (part : Bytes) : Bytes :=
  ascii "$" ++ decimal part.length ++ crlf ++ (part ++ crlf)

/-- `redis_connection::build_command`. -/
def buildCommand (redisCmd : Command) : Bytes :=
  ascii "*" ++ decimal redisCmd.length ++ crlf ++ (redisCmd.map buildPart).flatten

/-- What a list of commands looks like on the wire. -/
def encodeCommands (cmds : List Command) : Bytes :=
  (cmds.map buildCommand).flatten

@[simp] theorem encodeCommands_nil : encodeCommands [] = [] :=
  rfl

theorem encodeCommands_cons (cmd : Command) (cmds : List Command) :
    encodeCommands (cmd :: cmds) = buildCommand cmd ++ encodeCommands cmds :=
  rfl

@[simp] theorem encodeCommands_append (cmds cmds' : List Command) :
    encodeCommands (cmds ++ cmds') = encodeCommands cmds ++ encodeCommands cmds' := by
  simp [encodeCommands]

theorem encodeCommands_singleton (cmd : Command) : encodeCommands [cmd] = buildCommand cmd := by
  simp [encodeCommands]

/-! ## Reading -/

/-- A type byte, a number and the end of the line. -/
def readHeader (id : Byte) : Bytes → Option (Nat × Bytes)
  | [] => none
  | c :: s =>
    if c = id then
      (findCrlf s).bind fun n => (readDecimal (s.take n)).map fun v => (v, s.drop (n + 2))
    else none

/-- A bulk string. -/
def readPart (s : Bytes) : Option (Bytes × Bytes) :=
  (readHeader 36 s).bind fun (n, s) =>
    if n + 2 ≤ s.length ∧ (s.drop n).take 2 = crlf then some (s.take n, s.drop (n + 2)) else none

/-- As many bulk strings as an array has. -/
def readParts : Nat → Bytes → Option (Command × Bytes)
  | 0, s => some ([], s)
  | n + 1, s =>
    (readPart s).bind fun (part, s) => (readParts n s).map fun (parts, s) => (part :: parts, s)

/-- An array of bulk strings. -/
def readCommand (s : Bytes) : Option (Command × Bytes) :=
  (readHeader 42 s).bind fun (n, s) => readParts n s

/-- Commands to the end of the bytes; each one has at least a byte. -/
def decodeFuel : Nat → Bytes → Option (List Command)
  | _, [] => some []
  | 0, _ :: _ => none
  | n + 1, c :: s =>
    (readCommand (c :: s)).bind fun (cmd, s) => (decodeFuel n s).map fun cmds => cmd :: cmds

/-- The commands that a byte string consists of. -/
def decodeCommands (s : Bytes) : Option (List Command) :=
  decodeFuel s.length s

/-! ## Reading what was written -/

theorem readHeader_header (id : Byte) (n : Nat) (rest : Bytes) :
    readHeader id ([id] ++ decimal n ++ crlf ++ rest) = some (n, rest) := by
  have hfind : findCrlf (decimal n ++ crlf ++ rest) = some (decimal n).length :=
    findCrlf_of_noCrlf rest (noCrlf_decimal n)
  have hdrop : (decimal n ++ crlf ++ rest).drop ((decimal n).length + 2) = rest := by
    have : (decimal n).length + 2 = (decimal n ++ crlf).length := by simp [crlf]
    rw [this]
    exact List.drop_left
  have htake : (decimal n ++ crlf ++ rest).take (decimal n).length = decimal n := by
    rw [List.append_assoc]
    exact List.take_left
  simp only [List.cons_append, List.nil_append, readHeader, if_true, hfind, Option.bind_some, htake,
    readDecimal_decimal, Option.map_some, hdrop]

theorem readPart_buildPart (part rest : Bytes) :
    readPart (buildPart part ++ rest) = some (part, rest) := by
  have hhead := readHeader_header 36 part.length (part ++ crlf ++ rest)
  have hlen : part.length + 2 ≤ (part ++ crlf ++ rest).length := by simp [crlf]
  have hend : ((part ++ crlf ++ rest).drop part.length).take 2 = crlf := by simp [crlf]
  have hrest : (part ++ crlf ++ rest).drop (part.length + 2) = rest := by
    have : part.length + 2 = (part ++ crlf).length := by simp [crlf]
    rw [this]
    exact List.drop_left
  have htake : (part ++ crlf ++ rest).take part.length = part := by
    rw [List.append_assoc]
    exact List.take_left
  unfold readPart buildPart
  rw [List.append_assoc]
  show Option.bind (readHeader 36 ([36] ++ decimal part.length ++ crlf ++ (part ++ crlf ++ rest))) _ = _
  rw [hhead]
  simp only [Option.bind_some, if_pos (And.intro hlen hend), htake, hrest]

theorem readParts_parts (cmd : Command) (rest : Bytes) :
    readParts cmd.length ((cmd.map buildPart).flatten ++ rest) = some (cmd, rest) := by
  induction cmd with
  | nil => rfl
  | cons part cmd ih =>
    rw [List.map_cons, List.flatten_cons, List.append_assoc, List.length_cons, readParts,
      readPart_buildPart]
    simp only [Option.bind_some, ih, Option.map_some]

theorem readCommand_buildCommand (cmd : Command) (rest : Bytes) :
    readCommand (buildCommand cmd ++ rest) = some (cmd, rest) := by
  have hhead := readHeader_header 42 cmd.length ((cmd.map buildPart).flatten ++ rest)
  unfold readCommand buildCommand
  rw [List.append_assoc]
  show Option.bind (readHeader 42 ([42] ++ decimal cmd.length ++ crlf ++ _)) _ = _
  rw [hhead]
  exact readParts_parts cmd rest

theorem decodeFuel_encodeCommands (cmds : List Command) {n : Nat} (h : cmds.length ≤ n) :
    decodeFuel n (encodeCommands cmds) = some cmds := by
  induction cmds generalizing n with
  | nil => cases n <;> rfl
  | cons cmd cmds ih =>
    cases n with
    | zero => cases h
    | succ n =>
      have hread := readCommand_buildCommand cmd (encodeCommands cmds)
      have hne : ∃ c s, buildCommand cmd ++ encodeCommands cmds = c :: s := ⟨_, _, rfl⟩
      rw [encodeCommands_cons]
      obtain ⟨c, s, hcs⟩ := hne
      rw [hcs] at hread ⊢
      rw [decodeFuel, hread]
      simp only [Option.bind_some, ih (Nat.le_of_succ_le_succ h), Option.map_some]

theorem length_le_encodeCommands (cmds : List Command) : cmds.length ≤ (encodeCommands cmds).length := by
  induction cmds with
  | nil => exact Nat.le_refl _
  | cons cmd cmds ih =>
    have hpos : 1 ≤ (buildCommand cmd).length := by
      unfold buildCommand
      simp [ascii]
    rw [encodeCommands_cons, List.length_append, List.length_cons]
    omega

/-- The commands written are the commands read. -/
theorem decodeCommands_encodeCommands (cmds : List Command) :
    decodeCommands (encodeCommands cmds) = some cmds :=
  decodeFuel_encodeCommands cmds (length_le_encodeCommands cmds)

end CppRedis
