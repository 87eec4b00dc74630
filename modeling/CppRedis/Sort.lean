import CppRedis.Bitfield
import CppRedis.Lib.Options

/-!
# SORT

The argument vector of the overloads of `client::sort`, against what the server reads of it. The
server goes through the options from left to right, and a word that an option has taken as its
argument is no option.

* `sortTable`: the options of the server, written from the command and not from the code.
* `reads_sortOptions`: what the vector of the private overload is read as.
* `sort_transmitted`: every overload sends its own arguments, and the defaults for the rest.
-/

namespace CppRedis

open Text Options

/-! ## The command -/

/-- What `asc_order` stands for. -/
inductive Order
  | asc
  | desc
deriving DecidableEq, Repr

/-- `asc_order`, as an order. -/
def Order.of (ascOrder : Bool) : Order :=
  if ascOrder then .asc else .desc

/-- `asc_order ? "ASC" : "DESC"`. -/
def orderBytes (ascOrder : Bool) : Bytes :=
  if ascOrder then ascii "ASC" else ascii "DESC"

/-- What the private overload of `sort` pushes after the key. -/
def sortOptions (byPattern : Bytes) (limit : Bool) (offset count : Nat) (getPatterns : List Bytes)
    (ascOrder alpha : Bool) (storeDest : Bytes) : List Bytes :=
  (if byPattern ≠ [] then [ascii "BY", byPattern] else []) ++
    (if limit then [ascii "LIMIT", decimal offset, decimal count] else []) ++
    getPatterns.flatMap (fun getPattern =>
      if getPattern ≠ [] then [ascii "GET", getPattern] else []) ++
    [orderBytes ascOrder] ++
    (if alpha then [ascii "ALPHA"] else []) ++
    (if storeDest ≠ [] then [ascii "STORE", storeDest] else [])

namespace Client

variable {κ : Type}

/-- `sort`, the private overload. -/
def sort (key byPattern : Bytes) (limit : Bool) (offset count : Nat) (getPatterns : List Bytes)
    (ascOrder alpha : Bool) (storeDest : Bytes) (callback : Option κ) (c : Client κ) : Client κ :=
  c.send ([ascii "SORT", key] ++
    sortOptions byPattern limit offset count getPatterns ascOrder alpha storeDest) callback

/-- `sort(key, get_patterns, asc_order, alpha)`. -/
def sortGet (key : Bytes) (getPatterns : List Bytes) (ascOrder alpha : Bool) (callback : Option κ)
    (c : Client κ) : Client κ :=
  c.sort key [] false 0 0 getPatterns ascOrder alpha [] callback

/-- `sort(key, offset, count, get_patterns, asc_order, alpha)`. -/
def sortLimit (key : Bytes) (offset count : Nat) (getPatterns : List Bytes) (ascOrder alpha : Bool)
    (callback : Option κ) (c : Client κ) : Client κ :=
  c.sort key [] true offset count getPatterns ascOrder alpha [] callback

/-- `sort(key, by_pattern, get_patterns, asc_order, alpha)`. -/
def sortBy (key byPattern : Bytes) (getPatterns : List Bytes) (ascOrder alpha : Bool)
    (callback : Option κ) (c : Client κ) : Client κ :=
  c.sort key byPattern false 0 0 getPatterns ascOrder alpha [] callback

/-- `sort(key, get_patterns, asc_order, alpha, store_dest)`. -/
def sortStore (key : Bytes) (getPatterns : List Bytes) (ascOrder alpha : Bool) (storeDest : Bytes)
    (callback : Option κ) (c : Client κ) : Client κ :=
  c.sort key [] false 0 0 getPatterns ascOrder alpha storeDest callback

/-- `sort(key, offset, count, get_patterns, asc_order, alpha, store_dest)`. -/
def sortLimitStore (key : Bytes) (offset count : Nat) (getPatterns : List Bytes)
    (ascOrder alpha : Bool) (storeDest : Bytes) (callback : Option κ) (c : Client κ) : Client κ :=
  c.sort key [] true offset count getPatterns ascOrder alpha storeDest callback

/-- `sort(key, by_pattern, get_patterns, asc_order, alpha, store_dest)`. -/
def sortByStore (key byPattern : Bytes) (getPatterns : List Bytes) (ascOrder alpha : Bool)
    (storeDest : Bytes) (callback : Option κ) (c : Client κ) : Client κ :=
  c.sort key byPattern false 0 0 getPatterns ascOrder alpha storeDest callback

/-- `sort(key, by_pattern, offset, count, get_patterns, asc_order, alpha)`. -/
def sortByLimit (key byPattern : Bytes) (offset count : Nat) (getPatterns : List Bytes)
    (ascOrder alpha : Bool) (callback : Option κ) (c : Client κ) : Client κ :=
  c.sort key byPattern true offset count getPatterns ascOrder alpha [] callback

/-- `sort(key, by_pattern, offset, count, get_patterns, asc_order, alpha, store_dest)`. -/
def sortByLimitStore (key byPattern : Bytes) (offset count : Nat) (getPatterns : List Bytes)
    (ascOrder alpha : Bool) (storeDest : Bytes) (callback : Option κ) (c : Client κ) : Client κ :=
  c.sort key byPattern true offset count getPatterns ascOrder alpha storeDest callback

end Client

/-! ## The server -/

/-- The options of a SORT command, as the server has read them. -/
structure SortOptions where
  sortBy : Option Bytes := none
  limit : Option (Nat × Nat) := none
  get : List Bytes := []
  order : Option Order := none
  alpha : Bool := false
  store : Option Bytes := none
deriving DecidableEq, Repr

/-- The option that a word starts. -/
def sortTable (word : Bytes) (o : SortOptions) : Option (Reading Bytes SortOptions) :=
  if keyword word = ascii "ASC" then some (.between { o with order := some .asc })
  else if keyword word = ascii "DESC" then some (.between { o with order := some .desc })
  else if keyword word = ascii "ALPHA" then some (.between { o with alpha := true })
  else if keyword word = ascii "LIMIT" then
    some (.inside fun start => (readDecimal start).map fun offset =>
      .inside fun length => (readDecimal length).map fun count =>
        .between { o with limit := some (offset, count) })
  else if keyword word = ascii "STORE" then
    some (.inside fun key => some (.between { o with store := some key }))
  else if keyword word = ascii "BY" then
    some (.inside fun pattern => some (.between { o with sortBy := some pattern }))
  else if keyword word = ascii "GET" then
    some (.inside fun pattern => some (.between { o with get := o.get ++ [pattern] }))
  else none

/-- A SORT command: its key and its options. -/
def readSort : Command → Option (Bytes × SortOptions)
  | word :: key :: words =>
    if keyword word = ascii "SORT" then
      (Options.read sortTable (.between {}) words).map fun options => (key, options)
    else none
  | _ => none

/-! ## What the vector is read as -/

/-- A string that says nothing when it is empty. -/
def given (s : Bytes) : Option Bytes :=
  if s ≠ [] then some s else none

/-- The options that the arguments of the private overload ask for. -/
def askedSort (byPattern : Bytes) (limit : Bool) (offset count : Nat) (getPatterns : List Bytes)
    (ascOrder alpha : Bool) (storeDest : Bytes) : SortOptions where
  sortBy := given byPattern
  limit := if limit then some (offset, count) else none
  get := getPatterns.filter (· ≠ [])
  order := some (.of ascOrder)
  alpha := alpha
  store := given storeDest

section

variable {o : SortOptions}

theorem reads_sort_by (pattern : Bytes) (h : o.sortBy = none) :
    Reads sortTable (if pattern ≠ [] then [ascii "BY", pattern] else []) o
      { o with sortBy := given pattern } :=
  .optional (fun pattern => { o with sortBy := pattern }) rfl rfl (by rw [← h])

theorem reads_sort_limit (limit : Bool) (offset count : Nat) (h : o.limit = none) :
    Reads sortTable (if limit then [ascii "LIMIT", decimal offset, decimal count] else []) o
      { o with limit := if limit then some (offset, count) else none } := by
  refine Reads.ite (fun hp => ?_) (fun hp => ?_)
  · rw [if_pos hp]
    exact .arguments rfl (congrArg (Option.map _) (readDecimal_decimal offset))
      (congrArg (Option.map _) (readDecimal_decimal count))
  · rw [if_neg hp, ← h]

/-- One turn of the loop over the patterns. -/
def SortOptions.addGet (o : SortOptions) (getPattern : Bytes) : SortOptions :=
  { o with get := o.get ++ if getPattern ≠ [] then [getPattern] else [] }

theorem reads_sort_get (getPattern : Bytes) (o : SortOptions) :
    Reads sortTable (if getPattern ≠ [] then [ascii "GET", getPattern] else []) o
      (o.addGet getPattern) := by
  unfold SortOptions.addGet
  refine Reads.ite (fun hp => ?_) (fun hp => ?_)
  · rw [if_pos hp]
    exact .argument rfl rfl
  · rw [if_neg hp, List.append_nil]

theorem foldl_addGet (getPatterns : List Bytes) (o : SortOptions) :
    getPatterns.foldl SortOptions.addGet o =
      { o with get := o.get ++ getPatterns.filter (· ≠ []) } := by
  induction getPatterns generalizing o with
  | nil =>
    rw [List.filter_nil, List.append_nil]
    rfl
  | cons getPattern getPatterns ih =>
    rw [List.foldl_cons, ih, SortOptions.addGet, List.append_assoc]
    by_cases hp : getPattern = []
    · rw [if_neg (not_not_intro hp), List.filter_cons_of_neg (by simpa using hp), List.nil_append]
    · rw [if_pos hp, List.filter_cons_of_pos (by simpa using hp), List.singleton_append]

theorem reads_sort_order (ascOrder : Bool) :
    Reads sortTable [orderBytes ascOrder] o { o with order := some (.of ascOrder) } := by
  cases ascOrder with
  | false => exact .flag rfl
  | true => exact .flag rfl

theorem reads_sort_alpha (alpha : Bool) (h : o.alpha = false) :
    Reads sortTable (if alpha then [ascii "ALPHA"] else []) o { o with alpha := alpha } :=
  .switch alpha (fun alpha => { o with alpha := alpha }) rfl (by rw [← h])

theorem reads_sort_store (dest : Bytes) (h : o.store = none) :
    Reads sortTable (if dest ≠ [] then [ascii "STORE", dest] else []) o
      { o with store := given dest } :=
  .optional (fun dest => { o with store := dest }) rfl rfl (by rw [← h])

end

/-- The vector of the private overload, section by section. -/
theorem reads_sortOptions (byPattern : Bytes) (limit : Bool) (offset count : Nat)
    (getPatterns : List Bytes) (ascOrder alpha : Bool) (storeDest : Bytes) :
    Reads sortTable (sortOptions byPattern limit offset count getPatterns ascOrder alpha storeDest)
      {} (askedSort byPattern limit offset count getPatterns ascOrder alpha storeDest) := by
  have hget := Reads.flatMap getPatterns reads_sort_get
    { sortBy := given byPattern, limit := if limit then some (offset, count) else none }
  rw [foldl_addGet, List.nil_append] at hget
  exact (((((reads_sort_by byPattern rfl).append (reads_sort_limit limit offset count rfl)).append
    hget).append (reads_sort_order ascOrder)).append (reads_sort_alpha alpha rfl)).append
    (reads_sort_store storeDest rfl)

theorem readSort_sort (key byPattern : Bytes) (limit : Bool) (offset count : Nat)
    (getPatterns : List Bytes) (ascOrder alpha : Bool) (storeDest : Bytes) :
    readSort ([ascii "SORT", key] ++
      sortOptions byPattern limit offset count getPatterns ascOrder alpha storeDest) =
      some (key, askedSort byPattern limit offset count getPatterns ascOrder alpha storeDest) := by
  have hword : keyword (ascii "SORT") = ascii "SORT" := by decide
  have hoptions :=
    (reads_sortOptions byPattern limit offset count getPatterns ascOrder alpha storeDest).read_eq
  rw [List.cons_append, List.cons_append, List.nil_append, readSort, if_pos hword, hoptions,
    Option.map_some]

/-! ## What is transmitted -/

/-- One command is queued and put on the wire, and the server reads it as what was asked. -/
def Transmits {κ α : Type} (reader : Command → Option α) (c c' : Client κ) (asked : α) : Prop :=
  ∃ request, c'.commands = c.commands ++ [request] ∧
    c'.client = c.client.send request.command ∧ reader request.command = some asked

theorem transmits_send_iff {κ α : Type} {reader : Command → Option α} {c : Client κ}
    {redisCmd : Command} {callback : Option κ} {asked : α} :
    Transmits reader c (c.send redisCmd callback) asked ↔ reader redisCmd = some asked := by
  have hqueued : (c.send redisCmd callback).commands =
      c.commands ++ [⟨redisCmd, callback.map .user⟩] := rfl
  constructor
  · rintro ⟨request, hrequest, -, hread⟩
    rw [hqueued] at hrequest
    obtain rfl := List.singleton_inj.mp (List.append_cancel_left hrequest)
    exact hread
  · exact fun hread => ⟨_, hqueued, rfl, hread⟩

/-- The public overloads of `sort` that carry options, each with the arguments that the others
lack. -/
inductive SortOverload
  | get
  | limit (offset count : Nat)
  | pattern (byPattern : Bytes)
  | store (storeDest : Bytes)
  | limitStore (offset count : Nat) (storeDest : Bytes)
  | byStore (byPattern storeDest : Bytes)
  | byLimit (byPattern : Bytes) (offset count : Nat)
  | byLimitStore (byPattern : Bytes) (offset count : Nat) (storeDest : Bytes)
deriving DecidableEq, Repr

/-- A call of a public overload. -/
def Client.sortOverload {κ : Type} (overload : SortOverload) (key : Bytes)
    (getPatterns : List Bytes) (ascOrder alpha : Bool) (callback : Option κ) (c : Client κ) :
    Client κ :=
  match overload with
  | .get => c.sortGet key getPatterns ascOrder alpha callback
  | .limit offset count => c.sortLimit key offset count getPatterns ascOrder alpha callback
  | .pattern byPattern => c.sortBy key byPattern getPatterns ascOrder alpha callback
  | .store storeDest => c.sortStore key getPatterns ascOrder alpha storeDest callback
  | .limitStore offset count storeDest =>
    c.sortLimitStore key offset count getPatterns ascOrder alpha storeDest callback
  | .byStore byPattern storeDest =>
    c.sortByStore key byPattern getPatterns ascOrder alpha storeDest callback
  | .byLimit byPattern offset count =>
    c.sortByLimit key byPattern offset count getPatterns ascOrder alpha callback
  | .byLimitStore byPattern offset count storeDest =>
    c.sortByLimitStore key byPattern offset count getPatterns ascOrder alpha storeDest callback

/-- The options that a call of a public overload asks for: its own arguments, and no other
option. -/
def SortOverload.asked (overload : SortOverload) (getPatterns : List Bytes)
    (ascOrder alpha : Bool) : SortOptions :=
  let common : SortOptions :=
    { get := getPatterns.filter (· ≠ []), order := some (.of ascOrder), alpha := alpha }
  match overload with
  | .get => common
  | .limit offset count => { common with limit := some (offset, count) }
  | .pattern byPattern => { common with sortBy := given byPattern }
  | .store storeDest => { common with store := given storeDest }
  | .limitStore offset count storeDest =>
    { common with limit := some (offset, count), store := given storeDest }
  | .byStore byPattern storeDest =>
    { common with sortBy := given byPattern, store := given storeDest }
  | .byLimit byPattern offset count =>
    { common with sortBy := given byPattern, limit := some (offset, count) }
  | .byLimitStore byPattern offset count storeDest =>
    { common with
      sortBy := given byPattern
      limit := some (offset, count)
      store := given storeDest }

theorem transmits_sort {κ : Type} (c : Client κ) (key byPattern : Bytes) (limit : Bool)
    (offset count : Nat) (getPatterns : List Bytes) (ascOrder alpha : Bool) (storeDest : Bytes)
    (callback : Option κ) :
    Transmits readSort c
      (c.sort key byPattern limit offset count getPatterns ascOrder alpha storeDest callback)
      (key, askedSort byPattern limit offset count getPatterns ascOrder alpha storeDest) :=
  transmits_send_iff.mpr (readSort_sort ..)

/-- The server reads the options that were asked for, whatever the strings are: through the private
overload and through each of the public ones. -/
theorem sort_transmitted {κ : Type} (c : Client κ) (key : Bytes) (getPatterns : List Bytes)
    (ascOrder alpha : Bool) (callback : Option κ) :
    (∀ byPattern limit offset count storeDest,
      Transmits readSort c
        (c.sort key byPattern limit offset count getPatterns ascOrder alpha storeDest callback)
        (key, askedSort byPattern limit offset count getPatterns ascOrder alpha storeDest)) ∧
    ∀ overload : SortOverload,
      Transmits readSort c (c.sortOverload overload key getPatterns ascOrder alpha callback)
        (key, overload.asked getPatterns ascOrder alpha) := by
  refine ⟨fun _ _ _ _ _ => transmits_sort .., fun overload => ?_⟩
  cases overload with
  | get => exact transmits_sort c key [] false 0 0 getPatterns ascOrder alpha [] callback
  | limit offset count =>
    exact transmits_sort c key [] true offset count getPatterns ascOrder alpha [] callback
  | pattern byPattern =>
    exact transmits_sort c key byPattern false 0 0 getPatterns ascOrder alpha [] callback
  | store storeDest =>
    exact transmits_sort c key [] false 0 0 getPatterns ascOrder alpha storeDest callback
  | limitStore offset count storeDest =>
    exact transmits_sort c key [] true offset count getPatterns ascOrder alpha storeDest callback
  | byStore byPattern storeDest =>
    exact transmits_sort c key byPattern false 0 0 getPatterns ascOrder alpha storeDest callback
  | byLimit byPattern offset count =>
    exact transmits_sort c key byPattern true offset count getPatterns ascOrder alpha [] callback
  | byLimitStore byPattern offset count storeDest =>
    exact transmits_sort c key byPattern true offset count getPatterns ascOrder alpha storeDest
      callback

end CppRedis
