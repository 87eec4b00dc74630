import CppRedis.Client

/-!
# BITFIELD

The argument vector that `client::bitfield` builds, against what the server makes of it. To
the server `OVERFLOW` is a mode: it holds for the operations that follow, up to the next one.
`bitfield` writes it after the operation that asks for it.

* `subOperations`: the reader of the server, written from the command and not from the code.
* `subOperations_arguments`: what it reads of the vector.
* `bitfield_honoured_iff`: each operation is run under its own mode, if and only if
  the operations before it have left that mode.
-/

namespace CppRedis

open Text

/-! ## The command -/

/-- `overflow_type`. -/
inductive OverflowType
  | wrap
  | sat
  | fail
  | serverDefault
deriving DecidableEq, Repr

/-- `bitfield_operation_type`. -/
inductive BitfieldOperationType
  | get
  | set
  | incrby
deriving DecidableEq, Repr

/-- `bitfield_operation_type_to_string`. -/
def BitfieldOperationType.toBytes : BitfieldOperationType → Bytes
  | .get => ascii "GET"
  | .set => ascii "SET"
  | .incrby => ascii "INCRBY"

/-- `overflow_type_to_string`. -/
def OverflowType.toBytes : OverflowType → Bytes
  | .wrap => ascii "WRAP"
  | .sat => ascii "SAT"
  | .fail => ascii "FAIL"
  | .serverDefault => []

/-- `bitfield_operation`. -/
structure BitfieldOperation where
  operationType : BitfieldOperationType
  type : Bytes
  offset : Int
  value : Int
  overflow : OverflowType
deriving DecidableEq, Repr

namespace BitfieldOperation

def get (type : Bytes) (offset : Int) (overflow : OverflowType) : BitfieldOperation :=
  ⟨.get, type, offset, 0, overflow⟩

def set (type : Bytes) (offset value : Int) (overflow : OverflowType) : BitfieldOperation :=
  ⟨.set, type, offset, value, overflow⟩

def incrby (type : Bytes) (offset increment : Int) (overflow : OverflowType) : BitfieldOperation :=
  ⟨.incrby, type, offset, increment, overflow⟩

/-- One turn of the loop of `bitfield`. -/
def arguments (operation : BitfieldOperation) : List Bytes :=
  [operation.operationType.toBytes, operation.type, decimalInt operation.offset] ++
    (if operation.operationType = .set ∨ operation.operationType = .incrby then
      [decimalInt operation.value] else []) ++
    (if operation.overflow ≠ .serverDefault then
      [ascii "OVERFLOW", operation.overflow.toBytes] else [])

end BitfieldOperation

/-- The vector that `bitfield` builds. -/
def bitfieldCommand (key : Bytes) (operations : List BitfieldOperation) : Command :=
  [ascii "BITFIELD", key] ++ operations.flatMap BitfieldOperation.arguments

/-- `bitfield`. -/
def Client.bitfield {κ : Type} (key : Bytes) (operations : List BitfieldOperation)
    (callback : Option κ) (c : Client κ) : Client κ :=
  c.send (bitfieldCommand key operations) callback

/-! ## The server -/

/-- What the server does when a value does not fit. -/
inductive OverflowMode
  | wrap
  | sat
  | fail
deriving DecidableEq, Repr

/-- An operation as the server runs it; a `get` cannot overflow. -/
inductive SubOperation
  | get (type : Bytes) (offset : Int)
  | set (type : Bytes) (offset value : Int) (mode : OverflowMode)
  | incrby (type : Bytes) (offset increment : Int) (mode : OverflowMode)
deriving DecidableEq, Repr

/-- The server does not tell capitals from small letters in its keywords. -/
def keyword (word : Bytes) : Bytes :=
  word.map fun c => if 97 ≤ c ∧ c ≤ 122 then c - 32 else c

def readMode (word : Bytes) : Option OverflowMode :=
  if keyword word = ascii "WRAP" then some .wrap
  else if keyword word = ascii "SAT" then some .sat
  else if keyword word = ascii "FAIL" then some .fail
  else none

/-- The operations of an argument vector, of which the first ones run under `mode`. -/
def subOperations : OverflowMode → List Bytes → Option (List SubOperation)
  | _, [] => some []
  | _, [_] => none
  | mode, word :: type :: rest =>
    if keyword word = ascii "OVERFLOW" then
      (readMode type).bind fun mode => subOperations mode rest
    else
      match rest with
      | [] => none
      | offset :: rest =>
        if keyword word = ascii "GET" then
          (readInt offset).bind fun offset =>
            (subOperations mode rest).map fun operations => .get type offset :: operations
        else
          match rest with
          | [] => none
          | value :: rest =>
            (readInt offset).bind fun offset => (readInt value).bind fun value =>
              if keyword word = ascii "SET" then
                (subOperations mode rest).map fun operations =>
                  .set type offset value mode :: operations
              else if keyword word = ascii "INCRBY" then
                (subOperations mode rest).map fun operations =>
                  .incrby type offset value mode :: operations
              else none

/-- A BITFIELD command: its key, and its operations, the first ones of which wrap around. -/
def interpret : Command → Option (Bytes × List SubOperation)
  | word :: key :: rest =>
    if keyword word = ascii "BITFIELD" then
      (subOperations .wrap rest).map fun operations => (key, operations)
    else none
  | _ => none

/-! ## What the vector means -/

/-- The mode that is asked for, if any is. -/
def OverflowType.mode : OverflowType → Option OverflowMode
  | .wrap => some .wrap
  | .sat => some .sat
  | .fail => some .fail
  | .serverDefault => none

theorem readMode_toBytes {overflow : OverflowType} (h : overflow ≠ .serverDefault) :
    ∃ mode, overflow.mode = some mode ∧ readMode overflow.toBytes = some mode := by
  cases overflow with
  | wrap => exact ⟨.wrap, rfl, by decide⟩
  | sat => exact ⟨.sat, rfl, by decide⟩
  | fail => exact ⟨.fail, rfl, by decide⟩
  | serverDefault => exact absurd rfl h

namespace BitfieldOperation

/-- The mode that the operation is meant to run under. -/
def ownMode (operation : BitfieldOperation) : OverflowMode :=
  operation.overflow.mode.getD .wrap

/-- The mode that its arguments leave behind. -/
def leaves (mode : OverflowMode) (operation : BitfieldOperation) : OverflowMode :=
  operation.overflow.mode.getD mode

/-- The operation, run under a mode. -/
def under (operation : BitfieldOperation) (mode : OverflowMode) : SubOperation :=
  match operation.operationType with
  | .get => .get operation.type operation.offset
  | .set => .set operation.type operation.offset operation.value mode
  | .incrby => .incrby operation.type operation.offset operation.value mode

theorem under_inj {operation : BitfieldOperation} {mode mode' : OverflowMode} :
    operation.under mode = operation.under mode' ↔
      (operation.operationType ≠ .get → mode = mode') := by
  unfold under
  cases operation.operationType <;> simp

end BitfieldOperation

open BitfieldOperation

/-- The mode that some operations leave behind: the last one that was asked for. -/
def modeAfter (mode : OverflowMode) (operations : List BitfieldOperation) : OverflowMode :=
  operations.foldl leaves mode

/-- The server reads the mode of an operation after the operation. -/
theorem subOperations_overflow (mode : OverflowMode) (overflow : OverflowType) (rest : List Bytes) :
    subOperations mode ((if overflow ≠ .serverDefault then [ascii "OVERFLOW", overflow.toBytes]
      else []) ++ rest) = subOperations (overflow.mode.getD mode) rest := by
  by_cases h : overflow = .serverDefault
  · subst h
    rfl
  · obtain ⟨mode', hmode, hread⟩ := readMode_toBytes h
    have hword : keyword (ascii "OVERFLOW") = ascii "OVERFLOW" := by decide
    rw [if_pos h, List.cons_append, List.cons_append, List.nil_append, subOperations.eq_def]
    simp only [if_pos hword, hread, hmode, Option.bind_some, Option.getD_some]

/-- An operation runs under the mode that it finds. -/
theorem subOperations_arguments (mode : OverflowMode) (operation : BitfieldOperation)
    (rest : List Bytes) : subOperations mode (operation.arguments ++ rest) =
      (subOperations (operation.leaves mode) rest).map (operation.under mode :: ·) := by
  obtain ⟨operationType, type, offset, value, overflow⟩ := operation
  have htail := subOperations_overflow mode overflow rest
  have hoffset := readInt_decimalInt offset
  have hvalue := readInt_decimalInt value
  unfold arguments leaves under
  cases operationType with
  | get =>
    have hword : keyword (BitfieldOperationType.get.toBytes) = ascii "GET" := by decide
    have hnot : keyword (BitfieldOperationType.get.toBytes) ≠ ascii "OVERFLOW" := by decide
    rw [if_neg (by simp), List.append_nil, List.append_assoc, subOperations.eq_def]
    simp only [List.cons_append, List.nil_append, if_neg hnot, if_pos hword, hoffset,
      Option.bind_some, htail]
  | set =>
    have hword : keyword (BitfieldOperationType.set.toBytes) = ascii "SET" := by decide
    have hnot : keyword (BitfieldOperationType.set.toBytes) ≠ ascii "OVERFLOW" := by decide
    have hget : keyword (BitfieldOperationType.set.toBytes) ≠ ascii "GET" := by decide
    rw [if_pos (.inl rfl), List.append_assoc, List.append_assoc, subOperations.eq_def]
    simp only [List.cons_append, List.nil_append, if_neg hnot, if_neg hget, if_pos hword, hoffset,
      hvalue, Option.bind_some, htail]
  | incrby =>
    have hword : keyword (BitfieldOperationType.incrby.toBytes) = ascii "INCRBY" := by decide
    have hnot : keyword (BitfieldOperationType.incrby.toBytes) ≠ ascii "OVERFLOW" := by decide
    have hget : keyword (BitfieldOperationType.incrby.toBytes) ≠ ascii "GET" := by decide
    have hset : keyword (BitfieldOperationType.incrby.toBytes) ≠ ascii "SET" := by decide
    rw [if_pos (.inr rfl), List.append_assoc, List.append_assoc, subOperations.eq_def]
    simp only [List.cons_append, List.nil_append, if_neg hnot, if_neg hget, if_neg hset,
      if_pos hword, hoffset, hvalue, Option.bind_some, htail]

/-- All operations, each under the mode that those before it have left. -/
def executed : OverflowMode → List BitfieldOperation → List SubOperation
  | _, [] => []
  | mode, operation :: operations =>
    operation.under mode :: executed (operation.leaves mode) operations

theorem subOperations_flatMap (mode : OverflowMode) (operations : List BitfieldOperation) :
    subOperations mode (operations.flatMap arguments) = some (executed mode operations) := by
  induction operations generalizing mode with
  | nil => rfl
  | cons operation operations ih =>
    rw [List.flatMap_cons, subOperations_arguments, ih]
    rfl

theorem interpret_bitfieldCommand (key : Bytes) (operations : List BitfieldOperation) :
    interpret (bitfieldCommand key operations) = some (key, executed .wrap operations) := by
  have hword : keyword (ascii "BITFIELD") = ascii "BITFIELD" := by decide
  unfold bitfieldCommand
  rw [List.cons_append, List.cons_append, List.nil_append, interpret, if_pos hword,
    subOperations_flatMap]
  rfl

/-! ## Each operation under its own mode -/

/-- Each operation that can overflow finds its own mode: it is the last one that an operation
before it has asked for. -/
def ModesInOrder (mode : OverflowMode) (operations : List BitfieldOperation) : Prop :=
  ∀ i, (h : i < operations.length) → operations[i].operationType ≠ .get →
    modeAfter mode (operations.take i) = operations[i].ownMode

instance (mode : OverflowMode) (operations : List BitfieldOperation) :
    Decidable (ModesInOrder mode operations) :=
  inferInstanceAs (Decidable (∀ _, (_ : _ < _) → _))

theorem modesInOrder_cons {mode : OverflowMode} {operation : BitfieldOperation}
    {operations : List BitfieldOperation} : ModesInOrder mode (operation :: operations) ↔
      (operation.operationType ≠ .get → mode = operation.ownMode) ∧
        ModesInOrder (operation.leaves mode) operations := by
  constructor
  · intro h
    refine ⟨h 0 (Nat.succ_pos _), fun i hi hget => ?_⟩
    exact h (i + 1) (Nat.succ_lt_succ hi) hget
  · rintro ⟨hfirst, hrest⟩ i hi hget
    cases i with
    | zero => exact hfirst hget
    | succ i => exact hrest i (Nat.lt_of_succ_lt_succ hi) hget

theorem executed_eq_iff (mode : OverflowMode) (operations : List BitfieldOperation) :
    executed mode operations = operations.map (fun operation => operation.under operation.ownMode) ↔
      ModesInOrder mode operations := by
  induction operations generalizing mode with
  | nil => exact ⟨fun _ i hi => absurd hi (Nat.not_lt_zero i), fun _ => rfl⟩
  | cons operation operations ih =>
    rw [executed, List.map_cons, List.cons.injEq, under_inj, ih, modesInOrder_cons]

/-- The command that the client queues is run as the operations ask for: the same operations in
the same order, each with its own type, offset, value and mode. -/
def Honoured {κ : Type} (c c' : Client κ) (key : Bytes) (operations : List BitfieldOperation) : Prop :=
  ∃ request, c'.commands = c.commands ++ [request] ∧
    interpret request.command =
      some (key, operations.map fun operation => operation.under operation.ownMode)

/-- The operations run as they ask for, if and only if each one that can overflow finds its own
mode: its own `OVERFLOW` comes too late for it. -/
theorem bitfield_honoured_iff {κ : Type} (c : Client κ) (key : Bytes)
    (operations : List BitfieldOperation) (callback : Option κ) :
    Honoured c (c.bitfield key operations callback) key operations ↔
      ModesInOrder .wrap operations := by
  rw [← executed_eq_iff]
  have hqueued : (c.bitfield key operations callback).commands =
      c.commands ++ [⟨bitfieldCommand key operations, callback.map .user⟩] := rfl
  constructor
  · rintro ⟨request, hrequest, hread⟩
    rw [hqueued] at hrequest
    obtain rfl := List.singleton_inj.mp (List.append_cancel_left hrequest)
    rw [interpret_bitfieldCommand] at hread
    exact (Prod.ext_iff.mp (Option.some.inj hread)).2
  · intro heq
    refine ⟨_, hqueued, ?_⟩
    rw [interpret_bitfieldCommand, heq]

/-- An increment that is to stop at the greatest value wraps around, and the read that follows
it would have stopped. -/
theorem not_honoured_incrby : ¬ Honoured ({} : Client Unit)
    (Client.bitfield (ascii "k") [incrby (ascii "u8") 0 255 .sat, get (ascii "u8") 0 .serverDefault]
      none {}) (ascii "k")
    [incrby (ascii "u8") 0 255 .sat, get (ascii "u8") 0 .serverDefault] := by
  rintro ⟨request, hrequest, hread⟩
  cases hrequest
  revert hread
  decide

end CppRedis
