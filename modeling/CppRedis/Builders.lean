import CppRedis.Lib.Consumer
import CppRedis.Reply

/-!
# The reply builders

The five builders that turn the bytes of one reply into a `Reply`, the factory
that chooses among them by the first byte, and `reply_builder`, which runs them
over the stream of a connection. Each is an incremental consumer: `operator<<`,
here `feed`, erases what it used from the front of the buffer and returns
whether or not the reply is complete.

`array_builder` calls the builder of its current row through the virtual
`operator<<`, so its definitions take that call as the parameter `feed`;
`Builder.feed` ties the knot. The depth to which arrays can nest in one call is
bounded by the bytes left (`Builder.feedFuel`); `Chunking` shows that the bound
is never met.
-/

namespace CppRedis

open Text Consumer

/-! ## Machine integers -/

/-- A sum or product of two `int64_t`: overflow is undefined. -/
def checkInt64 (v : Int) : Except Fault Int :=
  if -2 ^ 63 ≤ v ∧ v < 2 ^ 63 then .ok v else .error .signedOverflow

/-- A sum of two `int`: overflow is undefined. -/
def checkInt32 (v : Int) : Except Fault Int :=
  if -2 ^ 31 ≤ v ∧ v < 2 ^ 31 then .ok v else .error .signedOverflow

/-- The conversion to `std::size_t` or `uint64_t`. -/
def toSize (v : Int) : Nat :=
  (v % 2 ^ 64).toNat

/-- `buffer[i]` for an `int` index. A negative one is converted to a position
past the end of every string. -/
def byteAt (buffer : Bytes) : Int → Except Fault Byte
  | .ofNat i =>
    match buffer[i]? with
    | some c => .ok c
    | none => .error .outOfRange
  | .negSucc _ => .error .outOfRange

/-! ## `simple_string_builder` -/

structure SimpleStringBuilder where
  str : Bytes := []
  replyReady : Bool := false
  reply : Reply := {}

def SimpleStringBuilder.feed (b : SimpleStringBuilder) (buffer : Bytes) :
    Turn SimpleStringBuilder Byte Fault Unit :=
  if b.replyReady then ⟨b, buffer, .ok ()⟩
  else
    match findCrlf buffer with
    | none => ⟨b, buffer, .ok ()⟩
    | some endSequence =>
      let str := buffer.take endSequence
      ⟨{ b with str := str, reply := b.reply.setString str .simpleString, replyReady := true },
        buffer.drop (endSequence + 2), .ok ()⟩

/-! ## `error_builder` -/

structure ErrorBuilder where
  stringBuilder : SimpleStringBuilder := {}
  reply : Reply := {}

def ErrorBuilder.replyReady (b : ErrorBuilder) : Bool :=
  b.stringBuilder.replyReady

def ErrorBuilder.feed (b : ErrorBuilder) (buffer : Bytes) : Turn ErrorBuilder Byte Fault Unit :=
  (b.stringBuilder.feed buffer).map fun s =>
    if s.replyReady then { b with stringBuilder := s, reply := b.reply.setString s.str .error }
    else { b with stringBuilder := s }

/-! ## `integer_builder` -/

structure IntegerBuilder where
  nbr : Int := 0
  negativeMultiplicator : Int := 1
  replyReady : Bool := false
  reply : Reply := {}

namespace IntegerBuilder

def getInteger (b : IntegerBuilder) : Int :=
  b.negativeMultiplicator * b.nbr

/-- `'-'`. -/
def minus : Byte := 45

/-- The digit loop, from the index `i` on: what it leaves in the members, and
how it is left. -/
def scan : IntegerBuilder → Nat → Bytes → IntegerBuilder × Except Fault Unit
  | b, _, [] => (b, .ok ())
  | b, i, c :: line =>
    if i = 0 ∧ b.negativeMultiplicator = 1 ∧ c = minus then
      scan { b with negativeMultiplicator := -1 } (i + 1) line
    else if isDigit c = false then
      (b, .error (.redisError "Invalid character for integer redis reply"))
    else
      match checkInt64 (b.nbr * 10) with
      | .error e => (b, .error e)
      | .ok n =>
        match checkInt64 (n + digitValue c) with
        | .error e => ({ b with nbr := n }, .error e)
        | .ok n => scan { b with nbr := n } (i + 1) line

def feed (b : IntegerBuilder) (buffer : Bytes) : Turn IntegerBuilder Byte Fault Unit :=
  if b.replyReady then ⟨b, buffer, .ok ()⟩
  else
    match findCrlf buffer with
    | none => ⟨b, buffer, .ok ()⟩
    | some endSequence =>
      match b.scan 0 (buffer.take endSequence) with
      | (b, .error e) => ⟨b, buffer, .error e⟩
      | (b, .ok ()) =>
        ⟨{ b with reply := b.reply.setInteger b.getInteger, replyReady := true },
          buffer.drop (endSequence + 2), .ok ()⟩

end IntegerBuilder

/-- The lines that `fetch_size` and `fetch_array_size` share: feed the integer
builder of the size. `store` puts it back into the members; `known` is what the
caller does once it is ready. Returns whether the size is known. -/
def fetchHeader {τ : Type} (i : IntegerBuilder) (store known : IntegerBuilder → τ)
    (buffer : Bytes) : Turn τ Byte Fault Bool :=
  match i.feed buffer with
  | ⟨i, rest, .error e⟩ => ⟨store i, rest, .error e⟩
  | ⟨i, rest, .ok ()⟩ =>
    if i.replyReady = false then ⟨store i, rest, .ok false⟩ else ⟨known i, rest, .ok true⟩

/-! ## `bulk_string_builder` -/

structure BulkStringBuilder where
  intBuilder : IntegerBuilder := {}
  strSize : Int32 := 0
  str : Bytes := []
  isNull : Bool := false
  replyReady : Bool := false
  reply : Reply := {}

namespace BulkStringBuilder

def buildReply (b : BulkStringBuilder) : BulkStringBuilder :=
  if b.isNull then { b with reply := b.reply.setNull, replyReady := true }
  else { b with reply := b.reply.setString b.str .bulkString, replyReady := true }

/-- The size is known: the 64-bit header is narrowed to `int`. -/
def setSize (b : BulkStringBuilder) (i : IntegerBuilder) : BulkStringBuilder :=
  let b := { b with intBuilder := i, strSize := .ofInt i.getInteger }
  if b.strSize = -1 then buildReply { b with isNull := true } else b

def fetchSize (b : BulkStringBuilder) (buffer : Bytes) : Turn BulkStringBuilder Byte Fault Bool :=
  if b.intBuilder.replyReady then ⟨b, buffer, .ok true⟩
  else fetchHeader b.intBuilder (fun i => { b with intBuilder := i }) b.setSize buffer

/-- The test of the two bytes after the payload, in evaluation order: the second
one is looked at only if the first is a CR. -/
def checkEndSequence (strSize : Int) (buffer : Bytes) : Except Fault Unit := do
  let c ← byteAt buffer strSize
  if c ≠ cr then throw (.redisError "Wrong ending sequence")
  let next ← checkInt32 (strSize + 1)
  let d ← byteAt buffer next
  if d ≠ lf then throw (.redisError "Wrong ending sequence")

def fetchStr (b : BulkStringBuilder) (buffer : Bytes) : Turn BulkStringBuilder Byte Fault Unit :=
  -- also wait for the end sequence; the sum is one of `std::size_t`
  if buffer.length < (toSize b.strSize.toInt + 2) % 2 ^ 64 then ⟨b, buffer, .ok ()⟩
  else
    match checkEndSequence b.strSize.toInt buffer with
    | .error e => ⟨b, buffer, .error e⟩
    | .ok () =>
      let b := { b with str := buffer.take (toSize b.strSize.toInt) }
      match checkInt32 (b.strSize.toInt + 2) with
      | .error e => ⟨b, buffer, .error e⟩
      | .ok n => ⟨b.buildReply, buffer.drop (toSize n), .ok ()⟩

/-- The part of `operator<<` after `fetch_size`. -/
def feedPayload (b : BulkStringBuilder) (buffer : Bytes) : Turn BulkStringBuilder Byte Fault Unit :=
  if b.replyReady then ⟨b, buffer, .ok ()⟩ else b.fetchStr buffer

def feed (b : BulkStringBuilder) (buffer : Bytes) : Turn BulkStringBuilder Byte Fault Unit :=
  if b.replyReady then ⟨b, buffer, .ok ()⟩ else andThen fetchSize feedPayload b buffer

end BulkStringBuilder

/-! ## `builder_iface` and the factory -/

/-- `array_builder`, over the type of the builders that `currentBuilder` points to. -/
structure ArrayBuilder (β : Type) where
  intBuilder : IntegerBuilder := {}
  arraySize : Nat := 0
  currentBuilder : Option β := none
  replyReady : Bool := false
  reply : Reply := .ofRows []

/-- `builder_iface`: an object of one of the five classes. -/
inductive Builder
  | simpleString (b : SimpleStringBuilder)
  | error (b : ErrorBuilder)
  | integer (b : IntegerBuilder)
  | bulkString (b : BulkStringBuilder)
  | array (b : ArrayBuilder Builder)

namespace Builder

/-- The virtual `reply_ready`. -/
def replyReady : Builder → Bool
  | .simpleString b => b.replyReady
  | .error b => b.replyReady
  | .integer b => b.replyReady
  | .bulkString b => b.replyReady
  | .array b => b.replyReady

/-- The virtual `get_reply`. -/
def getReply : Builder → Reply
  | .simpleString b => b.reply
  | .error b => b.reply
  | .integer b => b.reply
  | .bulkString b => b.reply
  | .array b => b.reply

end Builder

/-- `create_builder`: the class is chosen by the type byte. -/
def createBuilder (id : Byte) : Except Fault Builder :=
  if id = 43 then .ok (.simpleString {})      -- '+'
  else if id = 45 then .ok (.error {})        -- '-'
  else if id = 58 then .ok (.integer {})      -- ':'
  else if id = 36 then .ok (.bulkString {})   -- '$'
  else if id = 42 then .ok (.array {})        -- '*'
  else .error (.redisError "Invalid data")

/-- The first lines of `build_row` and of `build_reply`: the current builder, or
one created from the front byte, which is then erased. -/
def takeBuilder (current : Option Builder) (buffer : Bytes) : Except Fault (Builder × Bytes) :=
  match current with
  | some b => .ok (b, buffer)
  | none =>
    match buffer with
    | [] => .error .outOfRange
    | id :: rest => (createBuilder id).map fun b => (b, rest)

/-- The lines that `build_row` and `build_reply` share: feed the current builder
of the members `t`. `store` puts it back into them; `complete` is what the caller
does with a builder that is ready. Returns whether it was. -/
def feedCurrent {τ : Type} (feedRow : Builder → Bytes → Turn Builder Byte Fault Unit) (t : τ)
    (current : Option Builder) (store : Builder → τ) (complete : Builder → Except Fault τ)
    (buffer : Bytes) : Turn τ Byte Fault Bool :=
  match takeBuilder current buffer with
  | .error e => ⟨t, buffer, .error e⟩
  | .ok (b, buffer) =>
    match feedRow b buffer with
    | ⟨b, rest, .error e⟩ => ⟨store b, rest, .error e⟩
    | ⟨b, rest, .ok ()⟩ =>
      if b.replyReady = false then ⟨store b, rest, .ok false⟩
      else
        match complete b with
        | .error e => ⟨store b, rest, .error e⟩
        | .ok t => ⟨t, rest, .ok true⟩

/-! ## `array_builder` -/

namespace ArrayBuilder

variable (feedRow : Builder → Bytes → Turn Builder Byte Fault Unit)

/-- The size is known: a negative one is a null reply, and no row follows a zero. -/
def setArraySize (a : ArrayBuilder Builder) (i : IntegerBuilder) : ArrayBuilder Builder :=
  let size := i.getInteger
  let a := { a with intBuilder := i, arraySize := toSize size }
  if size < 0 then { a with reply := a.reply.setNull, replyReady := true }
  else if size = 0 then { a with replyReady := true }
  else a

def fetchArraySize (a : ArrayBuilder Builder) (buffer : Bytes) :
    Turn (ArrayBuilder Builder) Byte Fault Bool :=
  if a.intBuilder.replyReady then ⟨a, buffer, .ok true⟩
  else fetchHeader a.intBuilder (fun i => { a with intBuilder := i }) a.setArraySize buffer

/-- The end of `build_row`, once the row is complete. -/
def addRow (a : ArrayBuilder Builder) (b : Builder) : Except Fault (ArrayBuilder Builder) := do
  let a := { a with reply := a.reply.append b.getReply, currentBuilder := none }
  let rows ← a.reply.asArray
  return if rows.length = a.arraySize then { a with replyReady := true } else a

/-- Returns whether the row is complete. -/
def buildRow (a : ArrayBuilder Builder) (buffer : Bytes) :
    Turn (ArrayBuilder Builder) Byte Fault Bool :=
  feedCurrent feedRow a a.currentBuilder (fun b => { a with currentBuilder := some b }) a.addRow
    buffer

/-- One turn of `while (buffer.size() && !m_reply_ready) if (!build_row(buffer)) return`. -/
def rowTurn (a : ArrayBuilder Builder) (buffer : Bytes) :
    Turn (ArrayBuilder Builder) Byte Fault Bool :=
  if buffer = [] ∨ a.replyReady = true then ⟨a, buffer, .ok false⟩ else a.buildRow feedRow buffer

/-- A row in progress may complete without reading a byte; a new one reads its type byte. -/
def weight (a : ArrayBuilder Builder) : Nat :=
  if a.currentBuilder.isSome then 1 else 0

def feed (a : ArrayBuilder Builder) (buffer : Bytes) : Turn (ArrayBuilder Builder) Byte Fault Unit :=
  if a.replyReady then ⟨a, buffer, .ok ()⟩
  else andThen fetchArraySize (run (rowTurn feedRow) weight) a buffer

end ArrayBuilder

/-! ## The virtual `operator<<` -/

namespace Builder

/-- How many builders are nested in each other. -/
def depth : Builder → Nat
  | .array ⟨_, _, some b, _, _⟩ => b.depth + 1
  | _ => 1

/-- `operator<<`, to a bounded depth of nesting. -/
def feedFuel : Nat → Builder → Bytes → Turn Builder Byte Fault Unit
  | 0, b, buffer => ⟨b, buffer, .ok ()⟩
  | _ + 1, .simpleString b, buffer => (b.feed buffer).map .simpleString
  | _ + 1, .error b, buffer => (b.feed buffer).map .error
  | _ + 1, .integer b, buffer => (b.feed buffer).map .integer
  | _ + 1, .bulkString b, buffer => (b.feed buffer).map .bulkString
  | n + 1, .array b, buffer => (b.feed (feedFuel n) buffer).map .array

/-- The virtual `operator<<`. -/
def feed (b : Builder) (buffer : Bytes) : Turn Builder Byte Fault Unit :=
  feedFuel (b.depth + buffer.length) b buffer

end Builder

/-! ## `reply_builder` -/

/-- The members of `reply_builder` other than its buffer. -/
structure Stage where
  builder : Option Builder := none
  availableReplies : List Reply := []

/-- `reply_builder`. -/
structure ReplyBuilder extends Stage where
  buffer : Bytes := []

/-- A complete reply becomes available. -/
def Stage.addReply (s : Stage) (b : Builder) : Stage :=
  { builder := none, availableReplies := s.availableReplies ++ [b.getReply] }

/-- `build_reply`, with `m_buffer` as its argument. Returns whether a reply is complete. -/
def Stage.buildReply (s : Stage) (buffer : Bytes) : Turn Stage Byte Fault Bool :=
  if buffer = [] then ⟨s, buffer, .ok false⟩
  else
    feedCurrent Builder.feed s s.builder (fun b => { s with builder := some b })
      (fun b => .ok (s.addReply b)) buffer

/-- As for the rows of an array. -/
def Stage.weight (s : Stage) : Nat :=
  if s.builder.isSome then 1 else 0

namespace ReplyBuilder

/-- `operator<<(const std::string&)`: the builder afterwards, and how the call is left. -/
def feed (s : ReplyBuilder) (data : Bytes) : ReplyBuilder × Except Fault Unit :=
  let t := run Stage.buildReply Stage.weight s.toStage (s.buffer ++ data)
  ({ t.state with buffer := t.rest }, t.result)

/-- `reset`. -/
def reset (s : ReplyBuilder) : ReplyBuilder :=
  { s with builder := none, buffer := [] }

def replyAvailable (s : ReplyBuilder) : Bool :=
  0 < s.availableReplies.length

def getFront (s : ReplyBuilder) : Except Fault Reply :=
  match s.availableReplies with
  | [] => .error (.redisError "No available reply")
  | r :: _ => .ok r

def popFront (s : ReplyBuilder) : ReplyBuilder × Except Fault Unit :=
  match s.availableReplies with
  | [] => (s, .error (.redisError "No available reply"))
  | _ :: rs => ({ s with availableReplies := rs }, .ok ())

/-- The chunks of a stream, one call of `operator<<` each, up to the first fault. -/
def feedAll : ReplyBuilder → List Bytes → ReplyBuilder × Except Fault Unit
  | s, [] => (s, .ok ())
  | s, data :: chunks =>
    match s.feed data with
    | (s, .error e) => (s, .error e)
    | (s, .ok ()) => feedAll s chunks

end ReplyBuilder

end CppRedis
