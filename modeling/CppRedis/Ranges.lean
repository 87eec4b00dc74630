import CppRedis.Geo

/-!
# SCAN and the ranges of sorted sets

The argument vectors of the overloads of `client::scan` and its kin, and of `client::zrange`,
`zrangebylex`, `zrangebyscore` and their reversed kin, against what the server reads of them.

* `readLong`: the integers that the server reads, which are those of 64 bits in their one
  spelling. A `std::size_t` need not be one.
* `scan_transmitted_iff`: a call of the SCAN family is read as what it asks for, if and only if
  its count is such an integer.
* `range_transmitted_iff`: the exact condition for a call of a range. The scores of a range by
  name cannot be asked for, although there is an overload for them.
* `lex_ints_rejected`: a range by name whose bounds are numbers is never accepted.
-/

namespace CppRedis

open Text Options

/-! ## Integers of the server -/

/-- An integer of 64 bits, in the one way in which it can be written. -/
def readLong (word : Bytes) : Option Int :=
  (readInt word).filter fun v => decimalInt v = word ∧ -2 ^ 63 ≤ v ∧ v < 2 ^ 63

theorem readLong_decimalInt {v : Int} (h : -2 ^ 63 ≤ v ∧ v < 2 ^ 63) :
    readLong (decimalInt v) = some v := by
  rw [readLong, readInt_decimalInt, Option.filter_some, if_pos (decide_eq_true ⟨rfl, h⟩)]

theorem decimalInt_natCast (n : Nat) : decimalInt (n : Int) = decimal n := by
  rw [decimalInt, if_neg (Int.not_lt.mpr (Int.natCast_nonneg n)), Int.natAbs_natCast]

/-- What is written of a `std::size_t`. -/
theorem readLong_decimal (n : Nat) :
    readLong (decimal n) = if n < 2 ^ 63 then some (n : Int) else none := by
  rw [← decimalInt_natCast]
  by_cases h : n < 2 ^ 63
  · rw [if_pos h]
    exact readLong_decimalInt ⟨by omega, by omega⟩
  · rw [if_neg h, readLong, readInt_decimalInt, Option.filter_some, if_neg]
    simp only [decide_eq_true_eq, true_and]
    omega

/-! ## SCAN -/

/-- What `scan`, `hscan`, `sscan` and `zscan` push after the cursor. -/
def scanOptions (pattern : Bytes) (count : Nat) : List Bytes :=
  (if pattern ≠ [] then [ascii "MATCH", pattern] else []) ++
    (if 0 < count then [ascii "COUNT", decimal count] else [])

namespace Client

variable {κ : Type}

/-- `scan`, the full overload. -/
def scan (cursor : Nat) (pattern : Bytes) (count : Nat) (callback : Option κ) (c : Client κ) :
    Client κ :=
  c.send ([ascii "SCAN", decimal cursor] ++ scanOptions pattern count) callback

/-- `scan(cursor)`. -/
def scanPlain (cursor : Nat) (callback : Option κ) (c : Client κ) : Client κ :=
  c.scan cursor [] 0 callback

/-- `scan(cursor, pattern)`. -/
def scanPattern (cursor : Nat) (pattern : Bytes) (callback : Option κ) (c : Client κ) :
    Client κ :=
  c.scan cursor pattern 0 callback

/-- `scan(cursor, count)`. -/
def scanCount (cursor count : Nat) (callback : Option κ) (c : Client κ) : Client κ :=
  c.scan cursor [] count callback

/-- `hscan`, the full overload. -/
def hscan (key : Bytes) (cursor : Nat) (pattern : Bytes) (count : Nat) (callback : Option κ)
    (c : Client κ) : Client κ :=
  c.send ([ascii "HSCAN", key, decimal cursor] ++ scanOptions pattern count) callback

/-- `hscan(key, cursor)`. -/
def hscanPlain (key : Bytes) (cursor : Nat) (callback : Option κ) (c : Client κ) : Client κ :=
  c.hscan key cursor [] 0 callback

/-- `hscan(key, cursor, pattern)`. -/
def hscanPattern (key : Bytes) (cursor : Nat) (pattern : Bytes) (callback : Option κ) (c : Client κ) :
    Client κ :=
  c.hscan key cursor pattern 0 callback

/-- `hscan(key, cursor, count)`. -/
def hscanCount (key : Bytes) (cursor count : Nat) (callback : Option κ) (c : Client κ) : Client κ :=
  c.hscan key cursor [] count callback

/-- `sscan`, the full overload. -/
def sscan (key : Bytes) (cursor : Nat) (pattern : Bytes) (count : Nat) (callback : Option κ)
    (c : Client κ) : Client κ :=
  c.send ([ascii "SSCAN", key, decimal cursor] ++ scanOptions pattern count) callback

/-- `sscan(key, cursor)`. -/
def sscanPlain (key : Bytes) (cursor : Nat) (callback : Option κ) (c : Client κ) : Client κ :=
  c.sscan key cursor [] 0 callback

/-- `sscan(key, cursor, pattern)`. -/
def sscanPattern (key : Bytes) (cursor : Nat) (pattern : Bytes) (callback : Option κ) (c : Client κ) :
    Client κ :=
  c.sscan key cursor pattern 0 callback

/-- `sscan(key, cursor, count)`. -/
def sscanCount (key : Bytes) (cursor count : Nat) (callback : Option κ) (c : Client κ) : Client κ :=
  c.sscan key cursor [] count callback

/-- `zscan`, the full overload. -/
def zscan (key : Bytes) (cursor : Nat) (pattern : Bytes) (count : Nat) (callback : Option κ)
    (c : Client κ) : Client κ :=
  c.send ([ascii "ZSCAN", key, decimal cursor] ++ scanOptions pattern count) callback

/-- `zscan(key, cursor)`. -/
def zscanPlain (key : Bytes) (cursor : Nat) (callback : Option κ) (c : Client κ) : Client κ :=
  c.zscan key cursor [] 0 callback

/-- `zscan(key, cursor, pattern)`. -/
def zscanPattern (key : Bytes) (cursor : Nat) (pattern : Bytes) (callback : Option κ) (c : Client κ) :
    Client κ :=
  c.zscan key cursor pattern 0 callback

/-- `zscan(key, cursor, count)`. -/
def zscanCount (key : Bytes) (cursor count : Nat) (callback : Option κ) (c : Client κ) : Client κ :=
  c.zscan key cursor [] count callback

end Client

/-- What is scanned. -/
inductive Scanned
  | keys
  | hash (key : Bytes)
  | set (key : Bytes)
  | sortedSet (key : Bytes)
deriving DecidableEq, Repr

/-- The overloads of each function, each with the arguments that not all of them have. -/
inductive ScanOverload
  | plain
  | matching (pattern : Bytes)
  | counted (count : Nat)
  | full (pattern : Bytes) (count : Nat)
deriving DecidableEq, Repr

/-- A call of an overload of `scan`, `hscan`, `sscan` or `zscan`. -/
def Client.scanOverload {κ : Type} (scanned : Scanned) (overload : ScanOverload) (cursor : Nat)
    (callback : Option κ) (c : Client κ) : Client κ :=
  match scanned, overload with
  | .keys, .plain => c.scanPlain cursor callback
  | .keys, .matching pattern => c.scanPattern cursor pattern callback
  | .keys, .counted count => c.scanCount cursor count callback
  | .keys, .full pattern count => c.scan cursor pattern count callback
  | .hash key, .plain => c.hscanPlain key cursor callback
  | .hash key, .matching pattern => c.hscanPattern key cursor pattern callback
  | .hash key, .counted count => c.hscanCount key cursor count callback
  | .hash key, .full pattern count => c.hscan key cursor pattern count callback
  | .set key, .plain => c.sscanPlain key cursor callback
  | .set key, .matching pattern => c.sscanPattern key cursor pattern callback
  | .set key, .counted count => c.sscanCount key cursor count callback
  | .set key, .full pattern count => c.sscan key cursor pattern count callback
  | .sortedSet key, .plain => c.zscanPlain key cursor callback
  | .sortedSet key, .matching pattern => c.zscanPattern key cursor pattern callback
  | .sortedSet key, .counted count => c.zscanCount key cursor count callback
  | .sortedSet key, .full pattern count => c.zscan key cursor pattern count callback

/-- The options of a scan, as the server has read them. -/
structure ScanOptions where
  pattern : Option Bytes := none
  count : Option Int := none
deriving DecidableEq, Repr

/-- The option that a word starts. -/
def scanTable (word : Bytes) (o : ScanOptions) : Option (Reading Bytes ScanOptions) :=
  if keyword word = ascii "MATCH" then
    some (.inside fun pattern => some (.between { o with pattern := some pattern }))
  else if keyword word = ascii "COUNT" then
    some (.inside fun limit => (readLong limit).bind fun count =>
      if count < 1 then none else some (.between { o with count := some count }))
  else none

/-- A scan, as the server has read it. -/
structure ScanQuery where
  scanned : Scanned
  cursor : Nat
  options : ScanOptions
deriving DecidableEq, Repr

/-- The cursor of a scan and its options. -/
def readCursor (scanned : Scanned) : List Bytes → Option ScanQuery
  | cursor :: words =>
    (readDecimal cursor).bind fun cursor =>
      (Options.read scanTable (.between {}) words).map fun options => ⟨scanned, cursor, options⟩
  | [] => none

/-- A command of the SCAN family. -/
def readScan : Command → Option ScanQuery
  | [] => none
  | word :: rest =>
    if keyword word = ascii "SCAN" then readCursor .keys rest
    else
      match rest with
      | [] => none
      | key :: rest =>
        if keyword word = ascii "HSCAN" then readCursor (.hash key) rest
        else if keyword word = ascii "SSCAN" then readCursor (.set key) rest
        else if keyword word = ascii "ZSCAN" then readCursor (.sortedSet key) rest
        else none

/-- The options that the arguments of a full overload ask for. -/
def askedScan (pattern : Bytes) (count : Nat) : ScanOptions where
  pattern := given pattern
  count := if 0 < count then some count else none

namespace ScanOverload

/-- The count of a call; zero where the overload has none. -/
def count : ScanOverload → Nat
  | .plain => 0
  | .matching _ => 0
  | .counted count => count
  | .full _ count => count

/-- The options that a call asks for: its own arguments, and the defaults for the rest. -/
def asked : ScanOverload → ScanOptions
  | .plain => askedScan [] 0
  | .matching pattern => askedScan pattern 0
  | .counted count => askedScan [] count
  | .full pattern count => askedScan pattern count

end ScanOverload

theorem reads_scan_match {o : ScanOptions} (pattern : Bytes) (h : o.pattern = none) :
    Reads scanTable (if pattern ≠ [] then [ascii "MATCH", pattern] else []) o
      { o with pattern := given pattern } :=
  .optional (fun pattern => { o with pattern := pattern }) rfl rfl (by rw [← h])

theorem reads_scan_count {o : ScanOptions} {count : Nat} (hcount : count < 2 ^ 63)
    (h : o.count = none) :
    Reads scanTable (if 0 < count then [ascii "COUNT", decimal count] else []) o
      { o with count := if 0 < count then some (count : Int) else none } := by
  refine Reads.ite (fun hp => ?_) (fun hp => ?_)
  · have hlong : readLong (decimal count) = some (count : Int) := by
      rw [readLong_decimal, if_pos hcount]
    have hpos : ¬ (count : Int) < 1 := by omega
    rw [if_pos hp]
    exact .argument rfl (by rw [hlong, Option.bind_some, if_neg hpos])
  · rw [if_neg hp, ← h]

/-- The words that are pushed after the cursor are read as what they were pushed for, unless the
count is no integer of the server. -/
theorem read_scanOptions_iff (pattern : Bytes) (count : Nat) :
    Options.read scanTable (.between {}) (scanOptions pattern count) =
      some (askedScan pattern count) ↔ count < 2 ^ 63 := by
  have hpattern := reads_scan_match (o := {}) pattern rfl
  by_cases hcount : count < 2 ^ 63
  · exact iff_of_true (hpattern.append (reads_scan_count hcount rfl)).read_eq hcount
  · refine iff_of_false (fun h => ?_) hcount
    have hpos : 0 < count := by omega
    have hlong : readLong (decimal count) = none := by rw [readLong_decimal, if_neg hcount]
    rw [scanOptions, hpattern, if_pos hpos] at h
    -- the word that follows `COUNT` is refused
    have hrefused : Options.read scanTable (.between { pattern := given pattern })
        [ascii "COUNT", decimal count] = none := by
      show ((readLong (decimal count)).bind _).bind _ = none
      rw [hlong, Option.bind_none, Option.bind_none]
    exact Option.some_ne_none _ (h.symm.trans hrefused)

theorem readCursor_iff (scanned : Scanned) (cursor : Nat) (pattern : Bytes) (count : Nat) :
    readCursor scanned (decimal cursor :: scanOptions pattern count) =
      some ⟨scanned, cursor, askedScan pattern count⟩ ↔ count < 2 ^ 63 := by
  rw [readCursor, readDecimal_decimal, Option.bind_some, Option.map_eq_some_iff]
  simp only [ScanQuery.mk.injEq, true_and, exists_eq_right]
  exact read_scanOptions_iff pattern count

/-- Each function of the SCAN family, through each of its overloads, sends what the server reads
as the same cursor, pattern and count, if and only if the count is below 2^63. -/
theorem scan_transmitted_iff {κ : Type} (c : Client κ) (scanned : Scanned) (overload : ScanOverload)
    (cursor : Nat) (callback : Option κ) :
    Transmits readScan c (c.scanOverload scanned overload cursor callback)
      ⟨scanned, cursor, overload.asked⟩ ↔ overload.count < 2 ^ 63 := by
  cases scanned with
  | keys => cases overload <;> exact transmits_send_iff.trans (readCursor_iff .keys ..)
  | hash key => cases overload <;> exact transmits_send_iff.trans (readCursor_iff (.hash key) ..)
  | set key => cases overload <;> exact transmits_send_iff.trans (readCursor_iff (.set key) ..)
  | sortedSet key =>
    cases overload <;> exact transmits_send_iff.trans (readCursor_iff (.sortedSet key) ..)

/-! ## Ranges of a sorted set -/

/-- The two bounds of a range, of the types that there are overloads for. -/
inductive Bounds
  | ints (first last : Int)
  | doubles (first last : Double)
  | strings (first last : Bytes)
deriving DecidableEq, Repr

namespace Bounds

/-- The word for the bound that is written first. -/
def first : Bounds → Bytes
  | .ints first _ => decimalInt first
  | .doubles first _ => first.token
  | .strings first _ => first

/-- The word for the bound that is written last. -/
def last : Bounds → Bytes
  | .ints _ last => decimalInt last
  | .doubles _ last => last.token
  | .strings _ last => last

end Bounds

/-- What the private overloads of `zrangebylex` and its kin push after the bounds. -/
def rangeOptions (limit : Bool) (offset count : Nat) (withscores : Bool) : List Bytes :=
  (if withscores then [ascii "WITHSCORES"] else []) ++
    (if limit then [ascii "LIMIT", decimal offset, decimal count] else [])

/-- The public overloads of `zrangebylex` and its kin for each type of bounds, each with the
arguments that not all of them have. -/
inductive RangeOverload
  | plain
  | scores (withscores : Bool)
  | limit (offset count : Nat)
  | limitScores (offset count : Nat) (withscores : Bool)
deriving DecidableEq, Repr

namespace Client

variable {κ : Type}

/-- `zrange(key, start, stop)`. -/
def zrange (key : Bytes) (bounds : Bounds) (callback : Option κ) (c : Client κ) : Client κ :=
  c.send [ascii "ZRANGE", key, bounds.first, bounds.last] callback

/-- `zrange(key, start, stop, withscores)`. -/
def zrangeScores (key : Bytes) (bounds : Bounds) (withscores : Bool) (callback : Option κ)
    (c : Client κ) : Client κ :=
  if withscores then c.send [ascii "ZRANGE", key, bounds.first, bounds.last, ascii "WITHSCORES"] callback
  else c.send [ascii "ZRANGE", key, bounds.first, bounds.last] callback

/-- `zrevrange(key, start, stop)`. -/
def zrevrange (key : Bytes) (bounds : Bounds) (callback : Option κ) (c : Client κ) : Client κ :=
  c.send [ascii "ZREVRANGE", key, bounds.first, bounds.last] callback

/-- `zrevrange(key, start, stop, withscores)`. -/
def zrevrangeScores (key : Bytes) (bounds : Bounds) (withscores : Bool) (callback : Option κ)
    (c : Client κ) : Client κ :=
  if withscores then
    c.send [ascii "ZREVRANGE", key, bounds.first, bounds.last, ascii "WITHSCORES"] callback
  else c.send [ascii "ZREVRANGE", key, bounds.first, bounds.last] callback

/-- `zrangebylex`, the private overload. -/
def zrangebylex (key min max : Bytes) (limit : Bool) (offset count : Nat) (withscores : Bool)
    (callback : Option κ) (c : Client κ) : Client κ :=
  c.send ([ascii "ZRANGEBYLEX", key, min, max] ++ rangeOptions limit offset count withscores) callback

/-- The public overloads of `zrangebylex`. -/
def zrangebylexOverload (overload : RangeOverload) (key : Bytes) (bounds : Bounds) (callback : Option κ)
    (c : Client κ) : Client κ :=
  match overload with
  | .plain => c.zrangebylex key bounds.first bounds.last false 0 0 false callback
  | .scores withscores => c.zrangebylex key bounds.first bounds.last false 0 0 withscores callback
  | .limit offset count => c.zrangebylex key bounds.first bounds.last true offset count false callback
  | .limitScores offset count withscores =>
    c.zrangebylex key bounds.first bounds.last true offset count withscores callback

/-- `zrangebyscore`, the private overload. -/
def zrangebyscore (key min max : Bytes) (limit : Bool) (offset count : Nat) (withscores : Bool)
    (callback : Option κ) (c : Client κ) : Client κ :=
  c.send ([ascii "ZRANGEBYSCORE", key, min, max] ++ rangeOptions limit offset count withscores) callback

/-- The public overloads of `zrangebyscore`. -/
def zrangebyscoreOverload (overload : RangeOverload) (key : Bytes) (bounds : Bounds) (callback : Option κ)
    (c : Client κ) : Client κ :=
  match overload with
  | .plain => c.zrangebyscore key bounds.first bounds.last false 0 0 false callback
  | .scores withscores => c.zrangebyscore key bounds.first bounds.last false 0 0 withscores callback
  | .limit offset count => c.zrangebyscore key bounds.first bounds.last true offset count false callback
  | .limitScores offset count withscores =>
    c.zrangebyscore key bounds.first bounds.last true offset count withscores callback

/-- `zrevrangebylex`, the private overload. -/
def zrevrangebylex (key max min : Bytes) (limit : Bool) (offset count : Nat) (withscores : Bool)
    (callback : Option κ) (c : Client κ) : Client κ :=
  c.send ([ascii "ZREVRANGEBYLEX", key, max, min] ++ rangeOptions limit offset count withscores) callback

/-- The public overloads of `zrevrangebylex`. -/
def zrevrangebylexOverload (overload : RangeOverload) (key : Bytes) (bounds : Bounds) (callback : Option κ)
    (c : Client κ) : Client κ :=
  match overload with
  | .plain => c.zrevrangebylex key bounds.first bounds.last false 0 0 false callback
  | .scores withscores => c.zrevrangebylex key bounds.first bounds.last false 0 0 withscores callback
  | .limit offset count => c.zrevrangebylex key bounds.first bounds.last true offset count false callback
  | .limitScores offset count withscores =>
    c.zrevrangebylex key bounds.first bounds.last true offset count withscores callback

/-- `zrevrangebyscore`, the private overload. -/
def zrevrangebyscore (key max min : Bytes) (limit : Bool) (offset count : Nat) (withscores : Bool)
    (callback : Option κ) (c : Client κ) : Client κ :=
  c.send ([ascii "ZREVRANGEBYSCORE", key, max, min] ++ rangeOptions limit offset count withscores) callback

/-- The public overloads of `zrevrangebyscore`. -/
def zrevrangebyscoreOverload (overload : RangeOverload) (key : Bytes) (bounds : Bounds) (callback : Option κ)
    (c : Client κ) : Client κ :=
  match overload with
  | .plain => c.zrevrangebyscore key bounds.first bounds.last false 0 0 false callback
  | .scores withscores => c.zrevrangebyscore key bounds.first bounds.last false 0 0 withscores callback
  | .limit offset count => c.zrevrangebyscore key bounds.first bounds.last true offset count false callback
  | .limitScores offset count withscores =>
    c.zrevrangebyscore key bounds.first bounds.last true offset count withscores callback

end Client

/-- A call that asks for a range, but for the key, the bounds and the callback. -/
inductive RangeCall
  | zrange
  | zrangeScores (withscores : Bool)
  | zrevrange
  | zrevrangeScores (withscores : Bool)
  | zrangebylex (overload : RangeOverload)
  | zrangebyscore (overload : RangeOverload)
  | zrevrangebylex (overload : RangeOverload)
  | zrevrangebyscore (overload : RangeOverload)
deriving DecidableEq, Repr

def Client.rangeCall {κ : Type} (call : RangeCall) (key : Bytes) (bounds : Bounds)
    (callback : Option κ) (c : Client κ) : Client κ :=
  match call with
  | .zrange => c.zrange key bounds callback
  | .zrangeScores withscores => c.zrangeScores key bounds withscores callback
  | .zrevrange => c.zrevrange key bounds callback
  | .zrevrangeScores withscores => c.zrevrangeScores key bounds withscores callback
  | .zrangebylex overload => c.zrangebylexOverload overload key bounds callback
  | .zrangebyscore overload => c.zrangebyscoreOverload overload key bounds callback
  | .zrevrangebylex overload => c.zrevrangebylexOverload overload key bounds callback
  | .zrevrangebyscore overload => c.zrevrangebyscoreOverload overload key bounds callback

/-! ### The server -/

/-- What the bounds of a range are. -/
inductive RangeKind
  | rank
  | name
  | score
deriving DecidableEq, Repr

/-- The bound of a range by name: `-`, `+`, or a name after `(` or `[`. -/
def isName : Bytes → Bool
  | [] => false
  | c :: rest => c == 40 || c == 91 || (c == 43 || c == 45) && rest.headD 0 == 0

/-- Whether a word is a bound. What a score looks like is left to `isScore`. -/
def RangeKind.admits (isScore : Bytes → Bool) : RangeKind → Bytes → Bool
  | .rank, word => (readLong word).isSome
  | .name, word => isName word
  | .score, word => isScore word

/-- The options of a range, as the server has read them. -/
structure RangeOptions where
  withscores : Bool := false
  limit : Option (Int × Int) := none
deriving DecidableEq, Repr

/-- The option that a word starts. A range by rank has no `LIMIT`, one by name no `WITHSCORES`. -/
def rangeTable (kind : RangeKind) (word : Bytes) (o : RangeOptions) :
    Option (Reading Bytes RangeOptions) :=
  if keyword word = ascii "WITHSCORES" ∧ kind ≠ .name then
    some (.between { o with withscores := true })
  else if keyword word = ascii "LIMIT" ∧ kind ≠ .rank then
    some (.inside fun start => (readLong start).map fun offset =>
      .inside fun length => (readLong length).map fun count =>
        .between { o with limit := some (offset, count) })
  else none

/-- A range, as the server has read it. -/
structure RangeQuery where
  kind : RangeKind
  reversed : Bool
  key : Bytes
  first : Bytes
  last : Bytes
  options : RangeOptions
deriving DecidableEq, Repr

/-- What the name of a command says of the range. -/
def readRangeCommand (word : Bytes) : Option (RangeKind × Bool) :=
  if keyword word = ascii "ZRANGE" then some (.rank, false)
  else if keyword word = ascii "ZREVRANGE" then some (.rank, true)
  else if keyword word = ascii "ZRANGEBYLEX" then some (.name, false)
  else if keyword word = ascii "ZREVRANGEBYLEX" then some (.name, true)
  else if keyword word = ascii "ZRANGEBYSCORE" then some (.score, false)
  else if keyword word = ascii "ZREVRANGEBYSCORE" then some (.score, true)
  else none

/-- A command for a range. -/
def readRange (isScore : Bytes → Bool) : Command → Option RangeQuery
  | word :: key :: first :: last :: words =>
    (readRangeCommand word).bind fun (kind, reversed) =>
      if kind.admits isScore first && kind.admits isScore last then
        (Options.read (rangeTable kind) (.between {}) words).map fun options =>
          ⟨kind, reversed, key, first, last, options⟩
      else none
  | _ => none

/-! ### What is transmitted -/

/-- The options that the arguments of a private overload ask for. -/
def askedRange (limit : Bool) (offset count : Nat) (withscores : Bool) : RangeOptions where
  withscores := withscores
  limit := if limit then some (offset, count) else none

/-- The condition on the options under which they can be read. -/
structure RangeOptions.Served (kind : RangeKind) (limit : Bool) (offset count : Nat)
    (withscores : Bool) : Prop where
  scores : withscores = true → kind ≠ .name
  limit : limit = true → kind ≠ .rank ∧ offset < 2 ^ 63 ∧ count < 2 ^ 63

theorem reads_withscores (kind : RangeKind) {o : RangeOptions} (withscores : Bool)
    (hkind : withscores = true → kind ≠ .name) (h : o.withscores = false) :
    Reads (rangeTable kind) (if withscores then [ascii "WITHSCORES"] else []) o
      { o with withscores := withscores } := by
  cases withscores with
  | false =>
    have hsame : { o with withscores := false } = o := by rw [← h]
    rw [hsame]
    exact .nil
  | true => exact .flag (if_pos ⟨by decide, hkind rfl⟩)

theorem rangeTable_limit {kind : RangeKind} (hkind : kind ≠ .rank) (o : RangeOptions) :
    rangeTable kind (ascii "LIMIT") o =
      some (.inside fun start => (readLong start).map fun offset =>
        .inside fun length => (readLong length).map fun count =>
          .between { o with limit := some (offset, count) }) := by
  have hnot : ¬ (keyword (ascii "LIMIT") = ascii "WITHSCORES" ∧ kind ≠ .name) :=
    fun h => absurd h.1 (by decide)
  rw [rangeTable, if_neg hnot, if_pos ⟨by decide, hkind⟩]

theorem read_limit {kind : RangeKind} (hkind : kind ≠ .rank) (o : RangeOptions)
    (start length : Bytes) :
    Options.read (rangeTable kind) (.between o) [ascii "LIMIT", start, length] =
      (readLong start).bind fun offset => (readLong length).map fun count =>
        { o with limit := some (offset, count) } := by
  rw [Options.read, rangeTable_limit hkind, Option.bind_some, Options.read]
  cases readLong start with
  | none => rfl
  | some offset =>
    rw [Option.map_some, Option.bind_some, Option.bind_some, Options.read]
    cases readLong length with
    | none => rfl
    | some count => rfl

/-- The words after the bounds are read as what they were pushed for, if and only if they can be
read at all. -/
theorem read_rangeOptions_iff (kind : RangeKind) (limit : Bool) (offset count : Nat)
    (withscores : Bool) :
    Options.read (rangeTable kind) (.between {}) (rangeOptions limit offset count withscores) =
      some (askedRange limit offset count withscores) ↔
        RangeOptions.Served kind limit offset count withscores := by
  by_cases hscores : withscores = true → kind ≠ .name
  · have hw := reads_withscores kind (o := {}) withscores hscores rfl
    rw [rangeOptions, hw]
    cases limit with
    | false => exact iff_of_true rfl ⟨hscores, nofun⟩
    | true =>
      rw [if_pos rfl]
      by_cases hkind : kind = .rank
      · refine iff_of_false (fun h => ?_) fun h => (h.limit rfl).1 hkind
        subst hkind
        exact Option.some_ne_none _ h.symm
      · rw [read_limit hkind, readLong_decimal, readLong_decimal]
        by_cases hoffset : offset < 2 ^ 63
        · by_cases hcount : count < 2 ^ 63
          · rw [if_pos hoffset, if_pos hcount]
            exact iff_of_true rfl ⟨hscores, fun _ => ⟨hkind, hoffset, hcount⟩⟩
          · rw [if_pos hoffset, if_neg hcount]
            exact iff_of_false nofun fun h => hcount (h.limit rfl).2.2
        · rw [if_neg hoffset]
          exact iff_of_false nofun fun h => hoffset (h.limit rfl).2.1
  · -- a range by name refuses the word `WITHSCORES`
    obtain ⟨hw, hkind⟩ := Classical.not_imp.mp hscores
    rw [not_ne_iff] at hkind
    subst hw hkind
    exact iff_of_false (fun h => Option.some_ne_none _ h.symm) fun h => h.scores rfl rfl

namespace RangeCall

/-- The kind of the range, and whether it is reversed. -/
def command : RangeCall → RangeKind × Bool
  | .zrange => (.rank, false)
  | .zrangeScores _ => (.rank, false)
  | .zrevrange => (.rank, true)
  | .zrevrangeScores _ => (.rank, true)
  | .zrangebylex _ => (.name, false)
  | .zrangebyscore _ => (.score, false)
  | .zrevrangebylex _ => (.name, true)
  | .zrevrangebyscore _ => (.score, true)

/-- The arguments of a call besides the key and the bounds. -/
def arguments : RangeCall → RangeOverload
  | .zrange => .plain
  | .zrangeScores withscores => .scores withscores
  | .zrevrange => .plain
  | .zrevrangeScores withscores => .scores withscores
  | .zrangebylex overload => overload
  | .zrangebyscore overload => overload
  | .zrevrangebylex overload => overload
  | .zrevrangebyscore overload => overload

end RangeCall

namespace RangeOverload

/-- Whether a call asks for the scores. -/
def withscores : RangeOverload → Bool
  | .plain => false
  | .scores withscores => withscores
  | .limit _ _ => false
  | .limitScores _ _ withscores => withscores

/-- The offset and the count that a call asks for. -/
def limits : RangeOverload → Option (Nat × Nat)
  | .plain => none
  | .scores _ => none
  | .limit offset count => some (offset, count)
  | .limitScores offset count _ => some (offset, count)

/-- What is pushed for them. -/
def words : RangeOverload → List Bytes
  | .plain => rangeOptions false 0 0 false
  | .scores withscores => rangeOptions false 0 0 withscores
  | .limit offset count => rangeOptions true offset count false
  | .limitScores offset count withscores => rangeOptions true offset count withscores

/-- The options that a call asks for. -/
def asked (overload : RangeOverload) : RangeOptions where
  withscores := overload.withscores
  limit := overload.limits.map fun limit => ((limit.1 : Int), (limit.2 : Int))

end RangeOverload

/-- When the server accepts a call: the bounds are of its kind, the scores are not those of a
range by name, and the limits are integers of the server. -/
structure RangeCall.Accepted (isScore : Bytes → Bool) (call : RangeCall) (bounds : Bounds) : Prop where
  first : call.command.1.admits isScore bounds.first = true
  last : call.command.1.admits isScore bounds.last = true
  scores : call.arguments.withscores = true → call.command.1 ≠ .name
  limits : ∀ limit ∈ call.arguments.limits, limit.1 < 2 ^ 63 ∧ limit.2 < 2 ^ 63


theorem read_words_iff {kind : RangeKind} {overload : RangeOverload}
    (hrank : kind = .rank → overload.limits = none) :
    Options.read (rangeTable kind) (.between {}) overload.words = some overload.asked ↔
      (overload.withscores = true → kind ≠ .name) ∧
        ∀ limit ∈ overload.limits, limit.1 < 2 ^ 63 ∧ limit.2 < 2 ^ 63 := by
  have hlimits {offset count : Nat} (hsome : overload.limits = some (offset, count)) :
      kind ≠ .rank := fun hkind => absurd ((hrank hkind).symm.trans hsome) nofun
  cases overload with
  | plain =>
    exact (read_rangeOptions_iff kind false 0 0 false).trans
      ⟨fun h => ⟨h.scores, nofun⟩, fun h => ⟨h.1, nofun⟩⟩
  | scores withscores =>
    exact (read_rangeOptions_iff kind false 0 0 withscores).trans
      ⟨fun h => ⟨h.scores, nofun⟩, fun h => ⟨h.1, nofun⟩⟩
  | limit offset count =>
    refine (read_rangeOptions_iff kind true offset count false).trans
      ⟨fun h => ⟨h.scores, ?_⟩, fun h => ⟨h.1, fun _ => ⟨hlimits rfl, h.2 _ rfl⟩⟩⟩
    rintro _ ⟨⟩
    exact (h.limit rfl).2
  | limitScores offset count withscores =>
    refine (read_rangeOptions_iff kind true offset count withscores).trans
      ⟨fun h => ⟨h.scores, ?_⟩, fun h => ⟨h.1, fun _ => ⟨hlimits rfl, h.2 _ rfl⟩⟩⟩
    rintro _ ⟨⟩
    exact (h.limit rfl).2

theorem readRange_eq_some_iff {isScore : Bytes → Bool} {word : Bytes} {command : RangeKind × Bool}
    (hword : readRangeCommand word = some command) (key first last : Bytes) (words : List Bytes)
    (options : RangeOptions) :
    readRange isScore (word :: key :: first :: last :: words) =
        some ⟨command.1, command.2, key, first, last, options⟩ ↔
      command.1.admits isScore first = true ∧ command.1.admits isScore last = true ∧
        Options.read (rangeTable command.1) (.between {}) words = some options := by
  rw [readRange, hword, Option.bind_some]
  simp only [Option.ite_none_right_eq_some, Bool.and_eq_true, Option.map_eq_some_iff,
    RangeQuery.mk.injEq, true_and, exists_eq_right, and_assoc]

/-- A call for a range is read by the server as what it asks for, if and only if the bounds are
bounds of its kind, the scores are not those of a range by name, and the offset and the count
are below 2^63. -/
theorem range_transmitted_iff {κ : Type} (isScore : Bytes → Bool) (c : Client κ) (call : RangeCall)
    (key : Bytes) (bounds : Bounds) (callback : Option κ) :
    Transmits (readRange isScore) c (c.rangeCall call key bounds callback)
      ⟨call.command.1, call.command.2, key, bounds.first, bounds.last, call.arguments.asked⟩ ↔
      call.Accepted isScore bounds := by
  have hsent {word : Bytes} (hword : readRangeCommand word = some call.command)
      (hrank : call.command.1 = .rank → call.arguments.limits = none)
      (hcall : c.rangeCall call key bounds callback =
        c.send (word :: key :: bounds.first :: bounds.last :: call.arguments.words) callback) :
      Transmits (readRange isScore) c (c.rangeCall call key bounds callback)
        ⟨call.command.1, call.command.2, key, bounds.first, bounds.last, call.arguments.asked⟩ ↔
        call.Accepted isScore bounds := by
    rw [hcall, transmits_send_iff]
    refine (readRange_eq_some_iff hword ..).trans ?_
    rw [read_words_iff hrank]
    exact ⟨fun h => ⟨h.1, h.2.1, h.2.2.1, h.2.2.2⟩, fun h => ⟨h.first, h.last, h.scores, h.limits⟩⟩
  cases call with
  | zrange => exact hsent rfl (fun _ => rfl) rfl
  | zrangeScores withscores => exact hsent rfl (fun _ => rfl) (by cases withscores <;> rfl)
  | zrevrange => exact hsent rfl (fun _ => rfl) rfl
  | zrevrangeScores withscores => exact hsent rfl (fun _ => rfl) (by cases withscores <;> rfl)
  | zrangebylex overload => exact hsent rfl nofun (by cases overload <;> rfl)
  | zrangebyscore overload => exact hsent rfl nofun (by cases overload <;> rfl)
  | zrevrangebylex overload => exact hsent rfl nofun (by cases overload <;> rfl)
  | zrevrangebyscore overload => exact hsent rfl nofun (by cases overload <;> rfl)

/-! ### Bounds that are numbers -/

theorem isName_of_isDigit {c : Byte} (hc : isDigit c = true) (rest : Bytes) :
    isName (c :: rest) = false := by
  have hne {d : Byte} (hd : isDigit d = false) : (c == d) = false :=
    beq_eq_false_iff_ne.mpr fun h => Bool.noConfusion (hd.symm.trans (h ▸ hc))
  rw [isName, hne (by decide), hne (by decide), hne (by decide), hne (by decide)]
  rfl

/-- A number is no bound of a range by name: it starts with a digit, or with a minus that is not
all of it. -/
theorem isName_decimalInt (v : Int) : isName (decimalInt v) = false := by
  have hall := all_isDigit_decimal v.natAbs
  unfold decimalInt
  cases hd : decimal v.natAbs with
  | nil => exact absurd hd (decimal_ne_nil _)
  | cons c rest =>
    rw [hd, List.all_cons, Bool.and_eq_true] at hall
    split
    · have hzero : (c == 0) = false := by
        refine beq_eq_false_iff_ne.mpr ?_
        rintro rfl
        exact absurd hall.1 (by decide)
      rw [isName, List.headD_cons, hzero]
      rfl
    · exact isName_of_isDigit hall.1 rest

/-- The overloads of `zrangebylex` and `zrevrangebylex` for bounds that are integers send a
command that the server refuses, whatever the arguments are. -/
theorem lex_ints_rejected {κ : Type} (isScore : Bytes → Bool) (c : Client κ)
    (overload : RangeOverload) (key : Bytes) (first last : Int) (callback : Option κ)
    (query : RangeQuery) :
    ¬ Transmits (readRange isScore) c
        (c.zrangebylexOverload overload key (.ints first last) callback) query ∧
      ¬ Transmits (readRange isScore) c
        (c.zrevrangebylexOverload overload key (.ints first last) callback) query := by
  have hrefused {word : Bytes} {reversed : Bool} (hword : readRangeCommand word = some (.name, reversed))
      (c' : Client κ) (hcall : c' = c.send
        (word :: key :: decimalInt first :: decimalInt last :: overload.words) callback) :
      ¬ Transmits (readRange isScore) c c' query := by
    rw [hcall, transmits_send_iff, readRange, hword, Option.bind_some]
    have hadmits : RangeKind.name.admits isScore (decimalInt first) = false := isName_decimalInt first
    simp [hadmits]
  exact ⟨hrefused rfl _ (by cases overload <;> rfl), hrefused rfl _ (by cases overload <;> rfl)⟩

end CppRedis
