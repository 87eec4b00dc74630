import CppRedis.Lib.Text

/-!
# Faults and the class `reply`

`Fault` lists the ways in which a call is left other than by returning.
`Reply` is the class `cpp_redis::reply`: a hand-made tagged union whose four
members are all kept, so that a value that was superseded may still sit in a
member that its tag no longer selects.

A member `m_foo_bar` of a class is the field `fooBar` of its model here and in
all modules.
-/

namespace CppRedis

open Text

/-! ## Faults -/

/-- The ways in which a call is left other than by returning: a `redis_error`
with its text, another exception of the standard library or of a user callback,
and the two undefined behaviours that the parsing code can run into, an index
outside of a string or a vector and the overflow of a signed integer. -/
inductive Fault
  | redisError (what : String)
  | stdException (what : String)
  | outOfRange
  | signedOverflow
deriving DecidableEq, Repr

/-! ## `reply` -/

/-- `reply::type`. -/
inductive ReplyType
  | error
  | bulkString
  | simpleString
  | null
  | integer
  | array
deriving DecidableEq, Repr

/-- `reply::string_type`, the types of the string replies. -/
inductive StringType
  | error
  | bulkString
  | simpleString
deriving DecidableEq, Repr

/-- `static_cast<type>(reply_type)`: the two enumerations agree on their values. -/
def StringType.toType : StringType → ReplyType
  | .error => .error
  | .bulkString => .bulkString
  | .simpleString => .simpleString

/-- `cpp_redis::reply`. The default constructor makes a null reply; it leaves
`intval` indeterminate, here 0, and no observer reads it unless the tag says so. -/
structure Reply where
  type : ReplyType := .null
  rows : List Reply := []
  strval : Bytes := []
  intval : Int := 0

namespace Reply

/-! ### Constructors -/

def ofString (value : Bytes) (replyType : StringType) : Reply :=
  { type := replyType.toType, strval := value }

def ofInteger (value : Int) : Reply :=
  { type := .integer, intval := value }

def ofRows (rows : List Reply) : Reply :=
  { type := .array, rows := rows }

/-! ### Mutators -/

/-- `set(void)`. -/
def setNull (r : Reply) : Reply :=
  { r with type := .null }

/-- `set(const std::string&, string_type)`. -/
def setString (r : Reply) (value : Bytes) (replyType : StringType) : Reply :=
  { r with type := replyType.toType, strval := value }

/-- `set(int64_t)`. -/
def setInteger (r : Reply) (value : Int) : Reply :=
  { r with type := .integer, intval := value }

/-- `set(const std::vector<reply>&)`. -/
def setRows (r : Reply) (rows : List Reply) : Reply :=
  { r with type := .array, rows := rows }

/-- `operator<<`. -/
def append (r : Reply) (row : Reply) : Reply :=
  { r with type := .array, rows := r.rows ++ [row] }

/-! ### Observers -/

def isArray (r : Reply) : Bool :=
  r.type = .array

def isSimpleString (r : Reply) : Bool :=
  r.type = .simpleString

def isBulkString (r : Reply) : Bool :=
  r.type = .bulkString

def isError (r : Reply) : Bool :=
  r.type = .error

def isInteger (r : Reply) : Bool :=
  r.type = .integer

def isNull (r : Reply) : Bool :=
  r.type = .null

def isString (r : Reply) : Bool :=
  r.isSimpleString || r.isBulkString || r.isError

def asArray (r : Reply) : Except Fault (List Reply) :=
  if r.isArray then .ok r.rows else .error (.redisError "Reply is not an array")

def asString (r : Reply) : Except Fault Bytes :=
  if r.isString then .ok r.strval else .error (.redisError "Reply is not a string")

def asInteger (r : Reply) : Except Fault Int :=
  if r.isInteger then .ok r.intval else .error (.redisError "Reply is not an integer")

/-- Appending a row makes an array of the rows so far and the new one. -/
@[simp] theorem asArray_append (r row : Reply) : (r.append row).asArray = .ok (r.rows ++ [row]) :=
  rfl

end Reply

end CppRedis
