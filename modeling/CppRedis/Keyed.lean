import CppRedis.Ranges

/-!
# Commands with counted keys, SET and MIGRATE

The argument vectors of `client::eval`, `evalsha`, `zinterstore`, `zunionstore`, `set_advanced`
and `migrate`, against what the server reads of them. Where the number of keys is an argument of
its own, nothing holds the caller to it.

* `eval_transmitted_iff`, `store_transmitted_iff`: the keys that are read are those that were
  given if and only if their number is right; for the stores the weights, too, are as many.
* `set_transmitted_iff`, `migrate_transmitted_iff`: which options exclude each other.
-/

namespace CppRedis

open Text Options

/-! ## EVAL and EVALSHA -/

namespace Client

variable {κ : Type}

/-- `eval`. -/
def eval (script : Bytes) (numkeys : Int32) (keys args : List Bytes) (callback : Option κ)
    (c : Client κ) : Client κ :=
  c.send ([ascii "EVAL", script, decimalInt numkeys.toInt] ++ keys ++ args) callback

/-- `evalsha`. -/
def evalsha (sha1 : Bytes) (numkeys : Int32) (keys args : List Bytes) (callback : Option κ)
    (c : Client κ) : Client κ :=
  c.send ([ascii "EVALSHA", sha1, decimalInt numkeys.toInt] ++ keys ++ args) callback

end Client

/-- A script, by its text or by its digest. -/
inductive Script
  | text (script : Bytes)
  | digest (sha1 : Bytes)
deriving DecidableEq, Repr

def Client.evalScript {κ : Type} (script : Script) (numkeys : Int32) (keys args : List Bytes)
    (callback : Option κ) (c : Client κ) : Client κ :=
  match script with
  | .text script => c.eval script numkeys keys args callback
  | .digest sha1 => c.evalsha sha1 numkeys keys args callback

/-- A call of a script, as the server has read it. -/
structure EvalQuery where
  script : Script
  keys : List Bytes
  args : List Bytes
deriving DecidableEq, Repr

/-- The keys that are counted, and the words after them. -/
def splitKeys (numkeys : Bytes) (words : List Bytes) : Option (List Bytes × List Bytes) :=
  (readLong numkeys).bind fun n =>
    if 0 ≤ n ∧ n ≤ words.length then some (words.take n.toNat, words.drop n.toNat) else none

/-- An EVAL or EVALSHA command. -/
def readEval : Command → Option EvalQuery
  | word :: script :: numkeys :: words =>
    if keyword word = ascii "EVAL" then
      (splitKeys numkeys words).map fun split => ⟨.text script, split.1, split.2⟩
    else if keyword word = ascii "EVALSHA" then
      (splitKeys numkeys words).map fun split => ⟨.digest script, split.1, split.2⟩
    else none
  | _ => none

/-- As many keys are read as were counted. -/
theorem splitKeys_length {n : Int} (hn : -2 ^ 63 ≤ n ∧ n < 2 ^ 63) {words keys rest : List Bytes}
    (h : splitKeys (decimalInt n) words = some (keys, rest)) : n = keys.length := by
  rw [splitKeys, readLong_decimalInt hn, Option.bind_some, Option.ite_none_right_eq_some] at h
  obtain ⟨⟨hpos, hle⟩, hsplit⟩ := h
  obtain ⟨rfl, -⟩ := Prod.mk.inj (Option.some.inj hsplit)
  rw [List.length_take]
  omega

/-- The words are split where they were put together, if and only if the keys were counted
right. -/
theorem splitKeys_eq_some_iff {n : Int} (hn : -2 ^ 63 ≤ n ∧ n < 2 ^ 63) (keys rest : List Bytes) :
    splitKeys (decimalInt n) (keys ++ rest) = some (keys, rest) ↔ n = keys.length := by
  refine ⟨splitKeys_length hn, fun h => ?_⟩
  subst h
  have hle : (0 : Int) ≤ keys.length ∧ (keys.length : Int) ≤ (keys ++ rest).length := by
    rw [List.length_append]
    omega
  rw [splitKeys, readLong_decimalInt hn, Option.bind_some, if_pos hle, Int.toNat_natCast,
    List.take_left, List.drop_left]

/-- A call of a script is read as its script, its keys and its arguments, if and only if `numkeys`
is the number of the keys. -/
theorem eval_transmitted_iff {κ : Type} (c : Client κ) (script : Script) (numkeys : Int32)
    (keys args : List Bytes) (callback : Option κ) :
    Transmits readEval c (c.evalScript script numkeys keys args callback) ⟨script, keys, args⟩ ↔
      numkeys.toInt = keys.length := by
  have hn : -2 ^ 63 ≤ numkeys.toInt ∧ numkeys.toInt < 2 ^ 63 := by
    have hle := numkeys.le_toInt
    have hlt := numkeys.toInt_lt
    omega
  have hsplit (script : Script) :
      (splitKeys (decimalInt numkeys.toInt) (keys ++ args)).map
          (fun split => EvalQuery.mk script split.1 split.2) = some ⟨script, keys, args⟩ ↔
        numkeys.toInt = keys.length := by
    rw [← splitKeys_eq_some_iff hn keys args]
    simp only [Option.map_eq_some_iff, EvalQuery.mk.injEq, true_and, Prod.exists, exists_eq_right_right,
      exists_eq_right]
  cases script with
  | text script => exact transmits_send_iff.trans (hsplit (.text script))
  | digest sha1 => exact transmits_send_iff.trans (hsplit (.digest sha1))

/-! ## ZINTERSTORE and ZUNIONSTORE -/

/-- `aggregate_method`. -/
inductive AggregateMethod
  | sum
  | min
  | max
  | serverDefault
deriving DecidableEq, Repr

/-- `aggregate_method_to_string`. -/
def AggregateMethod.toBytes : AggregateMethod → Bytes
  | .sum => ascii "SUM"
  | .min => ascii "MIN"
  | .max => ascii "MAX"
  | .serverDefault => []

/-- What `zinterstore` and `zunionstore` push after the keys. -/
def storeOptions (weights : List Nat) (method : AggregateMethod) : List Bytes :=
  (if weights ≠ [] then ascii "WEIGHTS" :: weights.map decimal else []) ++
    (if method ≠ .serverDefault then [ascii "AGGREGATE", method.toBytes] else [])

namespace Client

variable {κ : Type}

/-- `zinterstore`. -/
def zinterstore (destination : Bytes) (numkeys : Nat) (keys : List Bytes) (weights : List Nat)
    (method : AggregateMethod) (callback : Option κ) (c : Client κ) : Client κ :=
  c.send ([ascii "ZINTERSTORE", destination, decimal numkeys] ++ keys ++ storeOptions weights method)
    callback

/-- `zunionstore`. -/
def zunionstore (destination : Bytes) (numkeys : Nat) (keys : List Bytes) (weights : List Nat)
    (method : AggregateMethod) (callback : Option κ) (c : Client κ) : Client κ :=
  c.send ([ascii "ZUNIONSTORE", destination, decimal numkeys] ++ keys ++ storeOptions weights method)
    callback

end Client

/-- How sorted sets are put together. -/
inductive SetOperation
  | inter
  | union
deriving DecidableEq, Repr

def Client.zstore {κ : Type} (operation : SetOperation) (destination : Bytes) (numkeys : Nat)
    (keys : List Bytes) (weights : List Nat) (method : AggregateMethod) (callback : Option κ)
    (c : Client κ) : Client κ :=
  match operation with
  | .inter => c.zinterstore destination numkeys keys weights method callback
  | .union => c.zunionstore destination numkeys keys weights method callback

/-- The options of a store, as the server has read them. Without an aggregate it is the sum. -/
structure StoreOptions where
  weights : Option (List Nat) := none
  aggregate : AggregateMethod := .serverDefault
deriving DecidableEq, Repr

def readAggregate (word : Bytes) : Option AggregateMethod :=
  if keyword word = ascii "SUM" then some .sum
  else if keyword word = ascii "MIN" then some .min
  else if keyword word = ascii "MAX" then some .max
  else none

/-- The option that a word starts, where there are `n` keys. Of the numbers that a weight may be,
only those are read here that are written by the code. -/
def storeTable (n : Nat) (word : Bytes) (o : StoreOptions) : Option (Reading Bytes StoreOptions) :=
  if keyword word = ascii "WEIGHTS" then
    some (counted readDecimal (fun weights => { o with weights := some weights }) n [])
  else if keyword word = ascii "AGGREGATE" then
    some (.inside fun word => (readAggregate word).map fun method =>
      .between { o with aggregate := method })
  else none

/-- A store, as the server has read it. -/
structure StoreQuery where
  operation : SetOperation
  destination : Bytes
  keys : List Bytes
  options : StoreOptions
deriving DecidableEq, Repr

/-- The destination of a store, its keys, of which there must be one, and its options. -/
def readKeysAndOptions (operation : SetOperation) (destination numkeys : Bytes)
    (words : List Bytes) : Option StoreQuery :=
  (splitKeys numkeys words).bind fun (keys, rest) =>
    if keys = [] then none
    else (Options.read (storeTable keys.length) (.between {}) rest).map fun options =>
      ⟨operation, destination, keys, options⟩

/-- A ZINTERSTORE or ZUNIONSTORE command. A weight may be any floating point number; of these only
the whole ones that the client can send are read here. -/
def readStore : Command → Option StoreQuery
  | word :: destination :: numkeys :: words =>
    if keyword word = ascii "ZINTERSTORE" then readKeysAndOptions .inter destination numkeys words
    else if keyword word = ascii "ZUNIONSTORE" then
      readKeysAndOptions .union destination numkeys words
    else none
  | _ => none

/-- The options that the arguments of a store ask for. -/
def askedStore (weights : List Nat) (method : AggregateMethod) : StoreOptions where
  weights := if weights ≠ [] then some weights else none
  aggregate := method

theorem reads_weights {o : StoreOptions} (weights : List Nat) (h : o.weights = none) :
    Reads (storeTable weights.length)
      (if weights ≠ [] then ascii "WEIGHTS" :: weights.map decimal else []) o
      { o with weights := if weights ≠ [] then some weights else none } := by
  refine Reads.ite (fun hp => ?_) (fun hp => ?_)
  · have hword : storeTable weights.length (ascii "WEIGHTS") o = some (counted readDecimal
        (fun weights => { o with weights := some weights }) weights.length []) := rfl
    rw [if_pos hp]
    exact .fixed hword fun weight _ => readDecimal_decimal weight
  · rw [if_neg hp, ← h]

theorem reads_aggregate {n : Nat} {o : StoreOptions} (method : AggregateMethod)
    (h : o.aggregate = .serverDefault) :
    Reads (storeTable n)
      (if method ≠ .serverDefault then [ascii "AGGREGATE", method.toBytes] else []) o
      { o with aggregate := method } := by
  cases method with
  | sum => exact .argument rfl rfl
  | min => exact .argument rfl rfl
  | max => exact .argument rfl rfl
  | serverDefault =>
    have hsame : { o with aggregate := .serverDefault } = o := by rw [← h]
    rw [hsame]
    exact .nil

/-- There are as many weights as keys, if there are any. -/
def StoreOptions.Weighs (n : Nat) (o : StoreOptions) : Prop :=
  ∀ weights ∈ o.weights, weights.length = n

theorem weighs_of_read {n : Nat} {words : List Bytes} {o : StoreOptions}
    (h : Options.read (storeTable n) (.between {}) words = some o) : o.Weighs n := by
  refine Reading.ensures_read (fun word o reading ho hreading => ?_)
    (.between (show StoreOptions.Weighs n {} from nofun)) h
  unfold storeTable at hreading
  split at hreading
  · cases hreading
    refine Reading.ensures_counted (fun weights hweights => ?_) (Nat.zero_add n)
    rintro _ ⟨⟩
    exact hweights
  · split at hreading
    · cases hreading
      refine .inside fun word reading hreading => ?_
      obtain ⟨method, -, rfl⟩ := Option.map_eq_some_iff.mp hreading
      exact .between ho
    · cases hreading

/-- The words after the keys are read as what they were pushed for, if and only if the weights
are left out or as many as the keys. -/
theorem read_storeOptions_iff (n : Nat) (weights : List Nat) (method : AggregateMethod) :
    Options.read (storeTable n) (.between {}) (storeOptions weights method) =
      some (askedStore weights method) ↔ weights = [] ∨ weights.length = n := by
  constructor
  · intro h
    by_cases hw : weights = []
    · exact .inl hw
    · exact .inr (weighs_of_read h weights (if_pos hw))
  · rintro (rfl | rfl)
    · exact (reads_aggregate (n := n) (o := {}) method rfl).read_eq
    · exact ((reads_weights weights rfl).append (reads_aggregate method rfl)).read_eq

theorem readKeysAndOptions_iff (operation : SetOperation) (destination : Bytes) {numkeys : Nat}
    (hnumkeys : numkeys < 2 ^ 63) (keys : List Bytes) (weights : List Nat)
    (method : AggregateMethod) :
    readKeysAndOptions operation destination (decimal numkeys)
        (keys ++ storeOptions weights method) =
      some ⟨operation, destination, keys, askedStore weights method⟩ ↔
        numkeys = keys.length ∧ keys ≠ [] ∧ (weights = [] ∨ weights.length = keys.length) := by
  have hn : -2 ^ 63 ≤ (numkeys : Int) ∧ (numkeys : Int) < 2 ^ 63 := by omega
  rw [readKeysAndOptions, ← decimalInt_natCast, Option.bind_eq_some_iff]
  simp only [Option.ite_none_left_eq_some, Option.map_eq_some_iff, StoreQuery.mk.injEq, true_and]
  constructor
  · rintro ⟨⟨keys', rest⟩, hsplit, hkeys, options, hread, rfl, rfl⟩
    have hlen : numkeys = keys'.length := Int.natCast_inj.mp (splitKeys_length hn hsplit)
    rw [(splitKeys_eq_some_iff hn keys' _).mpr (congrArg _ hlen)] at hsplit
    obtain ⟨-, rfl⟩ := Prod.mk.inj (Option.some.inj hsplit)
    exact ⟨hlen, hkeys, (read_storeOptions_iff _ weights method).mp hread⟩
  · rintro ⟨hlen, hkeys, hweights⟩
    exact ⟨(keys, _), (splitKeys_eq_some_iff hn keys _).mpr (congrArg _ hlen), hkeys, _,
      (read_storeOptions_iff _ weights method).mpr hweights, rfl, rfl⟩

/-- A store is read as its destination, its keys, its weights and its method, if and only if
`numkeys` is the number of the keys, of which there is one at least, and there are no weights or
as many as keys. -/
theorem store_transmitted_iff {κ : Type} (c : Client κ) (operation : SetOperation)
    (destination : Bytes) (numkeys : Nat) (keys : List Bytes) (weights : List Nat)
    (method : AggregateMethod) (callback : Option κ) :
    Transmits readStore c (c.zstore operation destination numkeys keys weights method callback)
      ⟨operation, destination, keys, askedStore weights method⟩ ↔
      numkeys < 2 ^ 63 ∧ numkeys = keys.length ∧ keys ≠ [] ∧
        (weights = [] ∨ weights.length = keys.length) := by
  have hread : readKeysAndOptions operation destination (decimal numkeys)
        (keys ++ storeOptions weights method) =
      some ⟨operation, destination, keys, askedStore weights method⟩ ↔
        numkeys < 2 ^ 63 ∧ numkeys = keys.length ∧ keys ≠ [] ∧
          (weights = [] ∨ weights.length = keys.length) := by
    by_cases hnumkeys : numkeys < 2 ^ 63
    · rw [readKeysAndOptions_iff operation destination hnumkeys]
      exact ⟨fun h => ⟨hnumkeys, h⟩, fun h => h.2⟩
    · refine iff_of_false (fun h => ?_) fun h => hnumkeys h.1
      rw [readKeysAndOptions, splitKeys, readLong_decimal, if_neg hnumkeys] at h
      exact Option.some_ne_none _ h.symm
  cases operation with
  | inter => exact transmits_send_iff.trans hread
  | union => exact transmits_send_iff.trans hread

/-! ## SET -/

/-- What the full overload of `set_advanced` pushes after the value. -/
def setOptions (ex : Bool) (exSec : Int32) (px : Bool) (pxMilli : Int32) (nx xx : Bool) : List Bytes :=
  (if ex then [ascii "EX", decimalInt exSec.toInt] else []) ++
    (if px then [ascii "PX", decimalInt pxMilli.toInt] else []) ++
    (if nx then [ascii "NX"] else []) ++
    (if xx then [ascii "XX"] else [])

namespace Client

variable {κ : Type}

/-- `set_advanced(key, value)`. -/
def setAdvancedPlain (key value : Bytes) (callback : Option κ) (c : Client κ) : Client κ :=
  c.send [ascii "SET", key, value] callback

/-- `set_advanced`, the full overload. -/
def setAdvanced (key value : Bytes) (ex : Bool) (exSec : Int32) (px : Bool) (pxMilli : Int32)
    (nx xx : Bool) (callback : Option κ) (c : Client κ) : Client κ :=
  c.send ([ascii "SET", key, value] ++ setOptions ex exSec px pxMilli nx xx) callback

end Client

/-- The options of a SET command, as the server has read them. -/
structure SetOptions where
  ex : Option Int := none
  px : Option Int := none
  nx : Bool := false
  xx : Bool := false
deriving DecidableEq, Repr

/-- A time to live, which is positive. -/
def readTimeToLive (word : Bytes) : Option Int :=
  (readLong word).filter fun v => 0 < v

/-- The option that a word starts. There is one time to live, and one condition. -/
def setTable (word : Bytes) (o : SetOptions) : Option (Reading Bytes SetOptions) :=
  if keyword word = ascii "NX" ∧ o.xx = false then some (.between { o with nx := true })
  else if keyword word = ascii "XX" ∧ o.nx = false then some (.between { o with xx := true })
  else if keyword word = ascii "EX" ∧ o.px = none then
    some (.inside fun word => (readTimeToLive word).map fun v => .between { o with ex := some v })
  else if keyword word = ascii "PX" ∧ o.ex = none then
    some (.inside fun word => (readTimeToLive word).map fun v => .between { o with px := some v })
  else none

/-- A SET command: its key, its value and its options. -/
def readSet : Command → Option (Bytes × Bytes × SetOptions)
  | word :: key :: value :: words =>
    if keyword word = ascii "SET" then
      (Options.read setTable (.between {}) words).map fun options => (key, value, options)
    else none
  | _ => none

/-- The options that the arguments of the full overload ask for. -/
def askedSet (ex : Bool) (exSec : Int32) (px : Bool) (pxMilli : Int32) (nx xx : Bool) : SetOptions where
  ex := if ex then some exSec.toInt else none
  px := if px then some pxMilli.toInt else none
  nx := nx
  xx := xx

/-- The options can be read: no two of them exclude each other, and a time to live is positive. -/
structure SetOptions.Valid (o : SetOptions) : Prop where
  once : o.ex = none ∨ o.px = none
  condition : o.nx = false ∨ o.xx = false
  ex : ∀ v ∈ o.ex, 0 < v
  px : ∀ v ∈ o.px, 0 < v

theorem valid_of_read {words : List Bytes} {o : SetOptions}
    (h : Options.read setTable (.between {}) words = some o) : o.Valid := by
  refine Reading.ensures_read (fun word o reading ho hreading => ?_)
    (.between (show SetOptions.Valid {} from ⟨.inl rfl, .inl rfl, nofun, nofun⟩)) h
  have hpositive {word : Bytes} {v : Int} (hv : readTimeToLive word = some v) : 0 < v := by
    obtain ⟨-, hpos⟩ := Option.filter_eq_some_iff.mp hv
    exact of_decide_eq_true hpos
  unfold setTable at hreading
  split at hreading
  · next hnx =>
    cases hreading
    exact .between ⟨ho.once, .inr hnx.2, ho.ex, ho.px⟩
  · split at hreading
    · next hxx =>
      cases hreading
      exact .between ⟨ho.once, .inl hxx.2, ho.ex, ho.px⟩
    · split at hreading
      · next hex =>
        cases hreading
        refine .inside fun word reading hreading => ?_
        obtain ⟨v, hv, rfl⟩ := Option.map_eq_some_iff.mp hreading
        refine .between ⟨.inr hex.2, ho.condition, ?_, ho.px⟩
        rintro _ ⟨⟩
        exact hpositive hv
      · split at hreading
        · next hpx =>
          cases hreading
          refine .inside fun word reading hreading => ?_
          obtain ⟨v, hv, rfl⟩ := Option.map_eq_some_iff.mp hreading
          refine .between ⟨.inl hpx.2, ho.condition, ho.ex, ?_⟩
          rintro _ ⟨⟩
          exact hpositive hv
        · cases hreading

theorem readTimeToLive_decimalInt {v : Int32} (h : 0 < v.toInt) :
    readTimeToLive (decimalInt v.toInt) = some v.toInt := by
  have hn : -2 ^ 63 ≤ v.toInt ∧ v.toInt < 2 ^ 63 := by
    have hlt := v.toInt_lt
    omega
  rw [readTimeToLive, readLong_decimalInt hn, Option.filter_some, if_pos (decide_eq_true h)]

section

variable {o : SetOptions}

theorem reads_ex (ex : Bool) {exSec : Int32} (hpx : ex = true → o.px = none)
    (hpos : ex = true → 0 < exSec.toInt) (h : o.ex = none) :
    Reads setTable (if ex then [ascii "EX", decimalInt exSec.toInt] else []) o
      { o with ex := if ex then some exSec.toInt else none } := by
  refine Reads.ite (fun hp => ?_) (fun hp => ?_)
  · have hword : setTable (ascii "EX") o = some (.inside fun word =>
        (readTimeToLive word).map fun v => .between { o with ex := some v }) := by
      rw [setTable, if_neg fun h => absurd h.1 (by decide), if_neg fun h => absurd h.1 (by decide),
        if_pos ⟨by decide, hpx hp⟩]
    rw [if_pos hp]
    exact .argument hword (congrArg (Option.map _) (readTimeToLive_decimalInt (hpos hp)))
  · rw [if_neg hp, ← h]

theorem reads_px (px : Bool) {pxMilli : Int32} (hex : px = true → o.ex = none)
    (hpos : px = true → 0 < pxMilli.toInt) (h : o.px = none) :
    Reads setTable (if px then [ascii "PX", decimalInt pxMilli.toInt] else []) o
      { o with px := if px then some pxMilli.toInt else none } := by
  refine Reads.ite (fun hp => ?_) (fun hp => ?_)
  · have hword : setTable (ascii "PX") o = some (.inside fun word =>
        (readTimeToLive word).map fun v => .between { o with px := some v }) := by
      rw [setTable, if_neg fun h => absurd h.1 (by decide), if_neg fun h => absurd h.1 (by decide),
        if_neg fun h => absurd h.1 (by decide), if_pos ⟨by decide, hex hp⟩]
    rw [if_pos hp]
    exact .argument hword (congrArg (Option.map _) (readTimeToLive_decimalInt (hpos hp)))
  · rw [if_neg hp, ← h]

theorem reads_nx (nx : Bool) (hxx : nx = true → o.xx = false) (h : o.nx = false) :
    Reads setTable (if nx then [ascii "NX"] else []) o { o with nx := nx } := by
  refine Reads.ite (fun hp => ?_) (fun hp => ?_)
  · rw [hp]
    exact .flag (if_pos ⟨by decide, hxx hp⟩)
  · rw [Bool.eq_false_iff.mpr hp, ← h]

theorem reads_xx (xx : Bool) (hnx : xx = true → o.nx = false) (h : o.xx = false) :
    Reads setTable (if xx then [ascii "XX"] else []) o { o with xx := xx } := by
  refine Reads.ite (fun hp => ?_) (fun hp => ?_)
  · rw [hp]
    refine .flag ?_
    rw [setTable, if_neg fun h => absurd h.1 (by decide), if_pos ⟨by decide, hnx hp⟩]
  · rw [Bool.eq_false_iff.mpr hp, ← h]

end

/-- The words after the value are read as what they were pushed for, if and only if what was asked
for can be read. -/
theorem read_setOptions_iff (ex : Bool) (exSec : Int32) (px : Bool) (pxMilli : Int32) (nx xx : Bool) :
    Options.read setTable (.between {}) (setOptions ex exSec px pxMilli nx xx) =
      some (askedSet ex exSec px pxMilli nx xx) ↔ (askedSet ex exSec px pxMilli nx xx).Valid := by
  refine ⟨valid_of_read, fun h => ?_⟩
  have honce : px = true → (askedSet ex exSec px pxMilli nx xx).ex = none := fun hp =>
    h.once.resolve_right fun hnone => absurd ((if_pos hp).symm.trans hnone) nofun
  have hcondition : xx = true → nx = false := fun hp =>
    h.condition.resolve_right fun hx => Bool.noConfusion (hp.symm.trans hx)
  exact ((((reads_ex (o := {}) ex (fun _ => rfl) (fun hp => h.ex _ (if_pos hp)) rfl).append
    (reads_px px honce (fun hp => h.px _ (if_pos hp)) rfl)).append (reads_nx nx (fun _ => rfl) rfl)).append
    (reads_xx xx hcondition rfl)).read_eq

/-- A call of `set_advanced` is read as what it asks for, if and only if it asks for one time to
live at most, which is positive, and for one condition at most; without options it always is. -/
theorem set_transmitted_iff {κ : Type} (c : Client κ) (key value : Bytes) (ex : Bool) (exSec : Int32)
    (px : Bool) (pxMilli : Int32) (nx xx : Bool) (callback : Option κ) :
    (Transmits readSet c (c.setAdvanced key value ex exSec px pxMilli nx xx callback)
        (key, value, askedSet ex exSec px pxMilli nx xx) ↔
      (ex = false ∨ px = false) ∧ (nx = false ∨ xx = false) ∧ (ex = true → 0 < exSec.toInt) ∧
        (px = true → 0 < pxMilli.toInt)) ∧
    Transmits readSet c (c.setAdvancedPlain key value callback) (key, value, {}) := by
  refine ⟨?_, transmits_send_iff.mpr rfl⟩
  have hread : readSet ([ascii "SET", key, value] ++ setOptions ex exSec px pxMilli nx xx) =
      some (key, value, askedSet ex exSec px pxMilli nx xx) ↔
        (askedSet ex exSec px pxMilli nx xx).Valid := by
    rw [← read_setOptions_iff]
    show Option.map _ _ = _ ↔ _
    simp only [Option.map_eq_some_iff, Prod.mk.injEq, true_and, exists_eq_right]
    rfl
  refine transmits_send_iff.trans (hread.trans ?_)
  have hnone (b : Bool) (v : Int) : (if b then some v else none) = none ↔ b = false := by
    cases b <;> simp
  have hsome (b : Bool) (v : Int) :
      (∀ w ∈ (if b then some v else none : Option Int), 0 < w) ↔ (b = true → 0 < v) := by
    cases b <;> simp
  exact ⟨fun h => ⟨h.once.imp (hnone _ _).mp (hnone _ _).mp, h.condition, (hsome _ _).mp h.ex,
      (hsome _ _).mp h.px⟩,
    fun h => ⟨h.1.imp (hnone _ _).mpr (hnone _ _).mpr, h.2.1, (hsome _ _).mpr h.2.2.1,
      (hsome _ _).mpr h.2.2.2⟩⟩

/-! ## MIGRATE -/

/-- What the full overload of `migrate` pushes after the timeout. -/
def migrateOptions (copy replace : Bool) (keys : List Bytes) : List Bytes :=
  (if copy then [ascii "COPY"] else []) ++ (if replace then [ascii "REPLACE"] else []) ++
    (if keys ≠ [] then ascii "KEYS" :: keys else [])

namespace Client

variable {κ : Type}

/-- `migrate(host, port, key, dest_db, timeout)`. -/
def migratePlain (host : Bytes) (port : Int32) (key destDb : Bytes) (timeout : Int32)
    (callback : Option κ) (c : Client κ) : Client κ :=
  c.send [ascii "MIGRATE", host, decimalInt port.toInt, key, destDb, decimalInt timeout.toInt]
    callback

/-- `migrate`, the full overload. -/
def migrate (host : Bytes) (port : Int32) (key destDb : Bytes) (timeout : Int32)
    (copy replace : Bool) (keys : List Bytes) (callback : Option κ) (c : Client κ) : Client κ :=
  c.send ([ascii "MIGRATE", host, decimalInt port.toInt, key, destDb, decimalInt timeout.toInt] ++
    migrateOptions copy replace keys) callback

end Client

/-- The options of a MIGRATE command, as the server has read them. -/
structure MigrateOptions where
  copy : Bool := false
  replace : Bool := false
  keys : List Bytes
deriving DecidableEq, Repr

/-- A MIGRATE command, as the server has read it. -/
structure MigrateQuery where
  host : Bytes
  port : Int
  destDb : Bytes
  timeout : Int
  options : MigrateOptions
deriving DecidableEq, Repr

/-- The options of a MIGRATE command with the key `key`. All words after `KEYS` are keys, which
take the place of an empty one. -/
def readMigrateOptions (key : Bytes) : MigrateOptions → List Bytes → Option MigrateOptions
  | o, [] => some o
  | o, word :: words =>
    if keyword word = ascii "COPY" then readMigrateOptions key { o with copy := true } words
    else if keyword word = ascii "REPLACE" then
      readMigrateOptions key { o with replace := true } words
    else if keyword word = ascii "KEYS" ∧ key = [] then some { o with keys := words }
    else none

/-- A MIGRATE command. The database, which `migrate` takes as a string, is left as it is written:
whether it is a number is not asked here. -/
def readMigrate : Command → Option MigrateQuery
  | word :: host :: port :: key :: destDb :: timeout :: words =>
    if keyword word = ascii "MIGRATE" then
      (readLong port).bind fun port => (readLong timeout).bind fun timeout =>
        (readMigrateOptions key { keys := [key] } words).map fun options =>
          ⟨host, port, destDb, timeout, options⟩
    else none
  | _ => none

/-- The options that the arguments of the full overload ask for. -/
def askedMigrate (key : Bytes) (copy replace : Bool) (keys : List Bytes) : MigrateOptions where
  copy := copy
  replace := replace
  keys := if keys ≠ [] then keys else [key]

theorem readMigrateOptions_flags (key : Bytes) (copy replace : Bool) (words : List Bytes) :
    readMigrateOptions key { keys := [key] } ((if copy then [ascii "COPY"] else []) ++
        (if replace then [ascii "REPLACE"] else []) ++ words) =
      readMigrateOptions key { copy := copy, replace := replace, keys := [key] } words := by
  cases copy <;> cases replace <;> rfl

theorem readMigrateOptions_iff (key : Bytes) (copy replace : Bool) (keys : List Bytes) :
    readMigrateOptions key { keys := [key] } (migrateOptions copy replace keys) =
      some (askedMigrate key copy replace keys) ↔ keys = [] ∨ key = [] := by
  rw [migrateOptions, readMigrateOptions_flags]
  by_cases hkeys : keys = []
  · subst hkeys
    exact iff_of_true rfl (.inl rfl)
  · rw [if_pos hkeys, readMigrateOptions, if_neg (by decide), if_neg (by decide)]
    by_cases hkey : key = []
    · rw [if_pos ⟨by decide, hkey⟩, askedMigrate, if_pos hkeys]
      exact iff_of_true rfl (.inr hkey)
    · rw [if_neg fun h => hkey h.2]
      exact iff_of_false (fun h => Option.some_ne_none _ h.symm) fun h => h.elim hkeys hkey

/-- A call of `migrate` is read as what it asks for, if and only if it does not give both a key
and keys; without options it always is. -/
theorem migrate_transmitted_iff {κ : Type} (c : Client κ) (host : Bytes) (port : Int32)
    (key destDb : Bytes) (timeout : Int32) (copy replace : Bool) (keys : List Bytes)
    (callback : Option κ) :
    (Transmits readMigrate c (c.migrate host port key destDb timeout copy replace keys callback)
        ⟨host, port.toInt, destDb, timeout.toInt, askedMigrate key copy replace keys⟩ ↔
      keys = [] ∨ key = []) ∧
    Transmits readMigrate c (c.migratePlain host port key destDb timeout callback)
      ⟨host, port.toInt, destDb, timeout.toInt, { keys := [key] }⟩ := by
  have hlong (v : Int32) : readLong (decimalInt v.toInt) = some v.toInt := by
    refine readLong_decimalInt ?_
    have hle := v.le_toInt
    have hlt := v.toInt_lt
    omega
  have hread (words : List Bytes) (options : MigrateOptions) :
      readMigrate (ascii "MIGRATE" :: host :: decimalInt port.toInt :: key :: destDb ::
          decimalInt timeout.toInt :: words) =
        some ⟨host, port.toInt, destDb, timeout.toInt, options⟩ ↔
          readMigrateOptions key { keys := [key] } words = some options := by
    rw [readMigrate, if_pos (by decide), hlong, hlong, Option.bind_some, Option.bind_some]
    simp only [Option.map_eq_some_iff, MigrateQuery.mk.injEq, true_and, exists_eq_right]
  constructor
  · rw [← readMigrateOptions_iff key copy replace keys, ← hread]
    exact transmits_send_iff
  · exact transmits_send_iff.mpr ((hread [] _).mpr rfl)

end CppRedis
