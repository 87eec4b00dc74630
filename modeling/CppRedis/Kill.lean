import CppRedis.Ranges
import Mathlib.Data.List.Nodup

/-!
# CLIENT KILL

`client_kill` takes its filters as arguments of different types, in any order, and a callback at
the end. What may be passed is checked by `static_assert`s, which see types and no values; what
is sent is read by the server option by option.

* `KillArg`: an argument, with its type; `KillCall.Compiles` is what the assertions let through.
* `KillFilters.Honours`: the server has read each of the filters, and no other.
* `kill_transmitted_iff`: which calls that compile are read like that. Integers of different types
  are different filters to the assertions, and the same one to the server.
-/

namespace CppRedis

open Text Options

/-! ## The arguments -/

/-- `client::client_type`. -/
inductive ClientType
  | normal
  | master
  | pubsub
  | slave
deriving DecidableEq, Repr

/-- The integral types, but for `bool`. -/
inductive IntegralType
  | char
  | signedChar
  | unsignedChar
  | char16
  | char32
  | wchar
  | short
  | unsignedShort
  | int
  | unsignedInt
  | long
  | unsignedLong
  | longLong
  | unsignedLongLong
deriving DecidableEq, Repr

namespace IntegralType

def signed : IntegralType → Bool
  | .char | .signedChar | .wchar | .short | .int | .long | .longLong => true
  | .unsignedChar | .char16 | .char32 | .unsignedShort | .unsignedInt | .unsignedLong
  | .unsignedLongLong => false

def bits : IntegralType → Nat
  | .char | .signedChar | .unsignedChar => 8
  | .char16 | .short | .unsignedShort => 16
  | .char32 | .wchar | .int | .unsignedInt => 32
  | .long | .unsignedLong | .longLong | .unsignedLongLong => 64

/-- Whether a value of the type can be `v`. -/
def Holds (t : IntegralType) (v : Int) : Prop :=
  if t.signed then -2 ^ (t.bits - 1) ≤ v ∧ v < 2 ^ (t.bits - 1) else 0 ≤ v ∧ v < 2 ^ t.bits

instance (t : IntegralType) (v : Int) : Decidable (t.Holds v) :=
  inferInstanceAs (Decidable (if t.signed then _ else _))

theorem Holds.range {t : IntegralType} {v : Int} (h : t.Holds v) : -2 ^ 63 ≤ v ∧ v < 2 ^ 64 := by
  unfold Holds at h
  cases t <;> simp [signed, bits] at h <;> omega

end IntegralType

/-- A value of an integral type. -/
structure IntegralValue where
  type : IntegralType
  value : Int
  fits : type.Holds value

/-- An argument of `client_kill`. Whatever is of a class type is taken for a callback. -/
inductive KillArg (κ : Type)
  | type (type : ClientType)
  | skip (skip : Bool)
  | id (id : IntegralValue)
  | callback (callback : Option κ)

/-- The types that the arguments are deduced to. -/
inductive ArgType
  | clientType
  | bool
  | integral (type : IntegralType)
  | callback
deriving DecidableEq, Repr

def ArgType.isClass : ArgType → Bool
  | .callback => true
  | _ => false

def KillArg.argType {κ : Type} : KillArg κ → ArgType
  | .type _ => .clientType
  | .skip _ => .bool
  | .id v => .integral v.type
  | .callback _ => .callback

/-! ### Assertions -/

/-- `helpers::is_type_present`. -/
def isTypePresent (t : ArgType) : List ArgType → Bool
  | [] => false
  | u :: us => if t = u then true else isTypePresent t us

/-- `helpers::is_different_types`. -/
def isDifferentTypes : List ArgType → Bool
  | [] => true
  | t :: ts => if isTypePresent t ts then false else isDifferentTypes ts

theorem isTypePresent_iff {t : ArgType} {ts : List ArgType} : isTypePresent t ts = true ↔ t ∈ ts := by
  induction ts with
  | nil => simp [isTypePresent]
  | cons u us ih => by_cases h : t = u <;> simp [isTypePresent, h, ih]

theorem isDifferentTypes_iff {ts : List ArgType} : isDifferentTypes ts = true ↔ ts.Nodup := by
  induction ts with
  | nil => simp [isDifferentTypes]
  | cons t ts ih =>
    cases h : isTypePresent t ts with
    | true => simp [isDifferentTypes, h, isTypePresent_iff.mp h]
    | false =>
      have hnot : t ∉ ts := fun hmem => Bool.noConfusion (h.symm.trans (isTypePresent_iff.mpr hmem))
      simp [isDifferentTypes, h, hnot, ih]

/-- The assertion of `client_kill_impl`: "Reply callback should be in the end of the argument
list". -/
def callbackAtEnd {κ : Type} : List (KillArg κ) → Bool
  | [] => true
  | [_] => true
  | arg :: args => !arg.argType.isClass && callbackAtEnd args

/-! ## The command -/

/-- The string of a `client_type`. -/
def ClientType.toBytes : ClientType → Bytes
  | .normal => ascii "normal"
  | .master => ascii "master"
  | .pubsub => ascii "pubsub"
  | .slave => ascii "slave"

/-- `client_kill_unpack_arg`: what the overload for the type of the argument appends to the
command, and the callback. -/
def clientKillUnpackArg {κ : Type} (redisCmd : Command) (replyCallback : Option κ) :
    KillArg κ → Command × Option κ
  | .type type => (redisCmd ++ [ascii "TYPE", type.toBytes], replyCallback)
  | .skip skip => (redisCmd ++ [ascii "SKIPME", if skip then ascii "yes" else ascii "no"], replyCallback)
  -- the parameter of the overload is a `uint64_t`
  | .id id => (redisCmd ++ [ascii "ID", decimal (toSize id.value)], replyCallback)
  | .callback cb => (redisCmd, cb)

/-- `client_kill_impl`. -/
def clientKillImpl {κ : Type} (redisCmd : Command) (replyCallback : Option κ) :
    List (KillArg κ) → Command × Option κ
  | [] => (redisCmd, replyCallback)
  | arg :: args =>
    let (redisCmd, replyCallback) := clientKillUnpackArg redisCmd replyCallback arg
    clientKillImpl redisCmd replyCallback args

/-- `host + ":" + std::to_string(port)`. -/
def killAddr (host : Bytes) (port : Int32) : Bytes :=
  host ++ ascii ":" ++ decimalInt port.toInt

namespace Client

variable {κ : Type}

/-- `client_kill` by filters. -/
def clientKill (arg : KillArg κ) (args : List (KillArg κ)) (c : Client κ) : Client κ :=
  let (redisCmd, replyCb) := clientKillImpl [ascii "CLIENT", ascii "KILL"] none (arg :: args)
  c.send redisCmd replyCb

/-- `client_kill` by an address and filters. -/
def clientKillAddr (host : Bytes) (port : Int32) (arg : KillArg κ) (args : List (KillArg κ))
    (c : Client κ) : Client κ :=
  let redisCmd := [ascii "CLIENT", ascii "KILL"]
  -- anything but a callback is a filter
  let redisCmd := if arg.argType.isClass then redisCmd else redisCmd ++ [ascii "ADDR"]
  let (redisCmd, replyCb) := clientKillImpl (redisCmd ++ [killAddr host port]) none (arg :: args)
  c.send redisCmd replyCb

/-- `client_kill` by an address alone. -/
def clientKillHost (host : Bytes) (port : Int32) (c : Client κ) : Client κ :=
  c.clientKillAddr host port (.callback none) []

end Client

/-! ## Calls -/

/-- A call of `client_kill`. -/
inductive KillCall (κ : Type)
  | filters (arg : KillArg κ) (args : List (KillArg κ))
  | address (host : Bytes) (port : Int32) (arg : KillArg κ) (args : List (KillArg κ))
  | hostOnly (host : Bytes) (port : Int32)

namespace KillCall

variable {κ : Type}

def run (call : KillCall κ) (c : Client κ) : Client κ :=
  match call with
  | .filters arg args => c.clientKill arg args
  | .address host port arg args => c.clientKillAddr host port arg args
  | .hostOnly host port => c.clientKillHost host port

/-- The arguments that are deduced. -/
def args : KillCall κ → List (KillArg κ)
  | .filters arg args => arg :: args
  | .address _ _ arg args => arg :: args
  | .hostOnly _ _ => []

def addr : KillCall κ → Option Bytes
  | .filters _ _ => none
  | .address host port _ _ => some (killAddr host port)
  | .hostOnly host port => some (killAddr host port)

/-- The assertions hold: "Should only have one distinct value per filter type", "Should have at
least one filter", and that of `client_kill_impl`. -/
def Compiles : KillCall κ → Prop
  | .filters arg args =>
    isDifferentTypes ((arg :: args).map KillArg.argType) = true ∧
      ¬ (arg.argType.isClass = true ∧ ((arg :: args).map KillArg.argType).getLast? = some arg.argType) ∧
      callbackAtEnd (arg :: args) = true
  | .address _ _ arg args =>
    isDifferentTypes ((arg :: args).map KillArg.argType) = true ∧ callbackAtEnd (arg :: args) = true
  | .hostOnly _ _ => True

end KillCall

/-! ## The server -/

/-- The filters of a CLIENT KILL. -/
structure KillFilters where
  addr : Option Bytes := none
  id : Option Int := none
  type : Option ClientType := none
  skipme : Option Bool := none
deriving DecidableEq, Repr

/-- A CLIENT KILL as the server has read it: by an address alone, or by filters. -/
inductive KillQuery
  | address (addr : Bytes)
  | filters (filters : KillFilters)
deriving DecidableEq, Repr

def readClientType (word : Bytes) : Option ClientType :=
  if keyword word = ascii "NORMAL" then some .normal
  else if keyword word = ascii "MASTER" then some .master
  else if keyword word = ascii "PUBSUB" then some .pubsub
  else if keyword word = ascii "SLAVE" then some .slave
  else none

def readYesNo (word : Bytes) : Option Bool :=
  if keyword word = ascii "YES" then some true
  else if keyword word = ascii "NO" then some false
  else none

/-- The filter that a word starts. A later one of a kind replaces an earlier one. -/
def killTable (word : Bytes) (o : KillFilters) : Option (Reading Bytes KillFilters) :=
  if keyword word = ascii "ID" then
    some (.inside fun id => (readLong id).map fun v => .between { o with id := some v })
  else if keyword word = ascii "TYPE" then
    some (.inside fun type => (readClientType type).map fun t => .between { o with type := some t })
  else if keyword word = ascii "ADDR" then
    some (.inside fun addr => some (.between { o with addr := some addr }))
  else if keyword word = ascii "SKIPME" then
    some (.inside fun skip => (readYesNo skip).map fun b => .between { o with skipme := some b })
  else none

/-- A CLIENT KILL command. One word is an address. -/
def readKill : Command → Option KillQuery
  | word :: sub :: words =>
    if keyword word = ascii "CLIENT" ∧ keyword sub = ascii "KILL" then
      match words with
      | [] => none
      | [addr] => some (.address addr)
      | words => (Options.read killTable (.between {}) words).map .filters
    else none
  | _ => none

/-- The server has read each of the filters that were passed, and no other. -/
structure KillFilters.Honours {κ : Type} (o : KillFilters) (addr : Option Bytes)
    (args : List (KillArg κ)) : Prop where
  addr : o.addr = addr
  type : ∀ t, o.type = some t ↔ .type t ∈ args
  skipme : ∀ b, o.skipme = some b ↔ .skip b ∈ args
  id : ∀ n, o.id = some n ↔ ∃ v : IntegralValue, .id v ∈ args ∧ v.value = n

/-- What a call asks for is what was read: without filters, that is an address alone. -/
def KillQuery.Honours {κ : Type} (call : KillCall κ) : KillQuery → Prop
  | .address addr => call.addr = some addr ∧ ∀ arg ∈ call.args, arg.argType.isClass = true
  | .filters o => o.Honours call.addr call.args

/-! ## What is read -/

namespace KillArg

variable {κ : Type}

/-- The words of an argument. -/
def words : KillArg κ → List Bytes
  | .type t => [ascii "TYPE", t.toBytes]
  | .skip b => [ascii "SKIPME", if b then ascii "yes" else ascii "no"]
  | .id v => [ascii "ID", decimal (toSize v.value)]
  | .callback _ => []

/-- The server's filters once it has read an argument. -/
def set (o : KillFilters) : KillArg κ → KillFilters
  | .type t => { o with type := some t }
  | .skip b => { o with skipme := some b }
  | .id v => { o with id := some v.value }
  | .callback _ => o

/-- The number can be read. -/
def InLong : KillArg κ → Prop
  | .id v => 0 ≤ v.value ∧ v.value < 2 ^ 63
  | _ => True

end KillArg

section Read

variable {κ : Type}

theorem clientKillImpl_eq (redisCmd : Command) (replyCallback : Option κ) (args : List (KillArg κ)) :
    ∃ cb, clientKillImpl redisCmd replyCallback args =
      (redisCmd ++ args.flatMap KillArg.words, cb) := by
  induction args generalizing redisCmd replyCallback with
  | nil => exact ⟨replyCallback, by rw [List.flatMap_nil, List.append_nil]; rfl⟩
  | cons arg args ih =>
    have hwords : (clientKillUnpackArg redisCmd replyCallback arg).1 = redisCmd ++ arg.words := by
      cases arg <;> simp [clientKillUnpackArg, KillArg.words]
    obtain ⟨cb, hrest⟩ := ih (clientKillUnpackArg redisCmd replyCallback arg).1
      (clientKillUnpackArg redisCmd replyCallback arg).2
    refine ⟨cb, ?_⟩
    show clientKillImpl (clientKillUnpackArg redisCmd replyCallback arg).1
      (clientKillUnpackArg redisCmd replyCallback arg).2 args = _
    rw [hrest, hwords, List.flatMap_cons, List.append_assoc]

/-- An identifier is read as what it is converted to, which is its value unless it is negative. -/
theorem readLong_toSize (v : IntegralValue) :
    readLong (decimal (toSize v.value)) =
      if 0 ≤ v.value ∧ v.value < 2 ^ 63 then some v.value else none := by
  have hrange := v.fits.range
  rw [readLong_decimal]
  by_cases h : 0 ≤ v.value ∧ v.value < 2 ^ 63
  · have hsize : (toSize v.value : Int) = v.value := by
      unfold toSize
      omega
    rw [if_pos h, if_pos (by omega), hsize]
  · have hsize : ¬ toSize v.value < 2 ^ 63 := by
      unfold toSize
      omega
    rw [if_neg h, if_neg hsize]

/-- An argument is read, unless it is a number that cannot be. -/
theorem read_words_append (o : KillFilters) (arg : KillArg κ) (rest : List Bytes) :
    (arg.InLong → Options.read killTable (.between o) (arg.words ++ rest) =
        Options.read killTable (.between (arg.set o)) rest) ∧
      (¬ arg.InLong → Options.read killTable (.between o) (arg.words ++ rest) = none) := by
  cases arg with
  | callback cb => exact ⟨fun _ => rfl, fun h => absurd trivial h⟩
  | type type =>
    refine ⟨fun _ => ?_, fun h => absurd trivial h⟩
    cases type <;> rfl
  | skip skip =>
    refine ⟨fun _ => ?_, fun h => absurd trivial h⟩
    cases skip <;> rfl
  | id v =>
    have hread : Options.read killTable (.between o) (KillArg.words (.id v : KillArg κ) ++ rest) =
        ((readLong (decimal (toSize v.value))).map fun n => .between { o with id := some n }).bind
          fun reading => Options.read killTable reading rest := rfl
    rw [hread, readLong_toSize]
    show (0 ≤ v.value ∧ v.value < 2 ^ 63 → _) ∧ (¬ (0 ≤ v.value ∧ v.value < 2 ^ 63) → _)
    exact ⟨fun h => by rw [if_pos h]; rfl, fun h => by rw [if_neg h]; rfl⟩

/-- The arguments are read one after the other, if every number can be. -/
theorem read_killWords_iff (args : List (KillArg κ)) (o o' : KillFilters) :
    Options.read killTable (.between o) (args.flatMap KillArg.words) = some o' ↔
      (∀ arg ∈ args, arg.InLong) ∧ args.foldl KillArg.set o = o' := by
  induction args generalizing o with
  | nil => exact ⟨fun h => ⟨List.forall_mem_nil _, Option.some.inj h⟩, fun h => congrArg some h.2⟩
  | cons arg args ih =>
    obtain ⟨hread, hnone⟩ := read_words_append o arg (args.flatMap KillArg.words)
    rw [List.flatMap_cons, List.forall_mem_cons, List.foldl_cons]
    by_cases h : arg.InLong
    · rw [hread h, ih]
      exact ⟨fun hrest => ⟨⟨h, hrest.1⟩, hrest.2⟩, fun hall => ⟨hall.1.2, hall.2⟩⟩
    · rw [hnone h]
      exact iff_of_false nofun fun hall => h hall.1.1

end Read

/-! ## What is honoured -/

/-- The last element of a list is any of its elements, if and only if they are all the same. -/
theorem getLast?_eq_some_iff_mem {α : Type} (l : List α) :
    (∀ x, l.getLast? = some x ↔ x ∈ l) ↔ ∀ x ∈ l, ∀ y ∈ l, x = y := by
  constructor
  · intro h x hx y hy
    exact Option.some.inj (((h x).mpr hx).symm.trans ((h y).mpr hy))
  · intro h x
    refine ⟨List.mem_of_getLast?, fun hx => ?_⟩
    obtain ⟨y, hy⟩ := Option.isSome_iff_exists.mp (List.getLast?_isSome.mpr (List.ne_nil_of_mem hx))
    rw [hy, h y (List.mem_of_getLast? hy) x hx]

theorem getLast?_cons_or {α : Type} (x : α) (l : List α) (before : Option α) :
    (x :: l).getLast?.or before = l.getLast?.or (some x) := by
  rw [List.getLast?_cons]
  cases l.getLast? with
  | none => rfl
  | some y => rfl

namespace KillArg

variable {κ : Type}

def type? : KillArg κ → Option ClientType
  | .type t => some t
  | _ => none

def skip? : KillArg κ → Option Bool
  | .skip b => some b
  | _ => none

def id? : KillArg κ → Option Int
  | .id v => some v.value
  | _ => none

/-- Of each kind, the last argument is kept. -/
theorem foldl_set (args : List (KillArg κ)) (o : KillFilters) :
    args.foldl set o =
      { addr := o.addr
        id := (args.filterMap id?).getLast?.or o.id
        type := (args.filterMap type?).getLast?.or o.type
        skipme := (args.filterMap skip?).getLast?.or o.skipme } := by
  induction args generalizing o with
  | nil => rfl
  | cons arg args ih =>
    rw [List.foldl_cons, ih]
    cases arg with
    | callback cb => rfl
    | type type =>
      have hlast := getLast?_cons_or type (args.filterMap type?) o.type
      simp only [set, id?, type?, skip?, List.filterMap_cons, hlast]
    | skip skip =>
      have hlast := getLast?_cons_or skip (args.filterMap skip?) o.skipme
      simp only [set, id?, type?, skip?, List.filterMap_cons, hlast]
    | id v =>
      have hlast := getLast?_cons_or v.value (args.filterMap id?) o.id
      simp only [set, id?, type?, skip?, List.filterMap_cons, hlast]

theorem mem_type? {args : List (KillArg κ)} {t : ClientType} :
    t ∈ args.filterMap type? ↔ .type t ∈ args := by
  rw [List.mem_filterMap]
  constructor
  · rintro ⟨arg, hmem, ht⟩
    cases arg <;> cases ht
    exact hmem
  · exact fun hmem => ⟨_, hmem, rfl⟩

theorem mem_skip? {args : List (KillArg κ)} {b : Bool} :
    b ∈ args.filterMap skip? ↔ .skip b ∈ args := by
  rw [List.mem_filterMap]
  constructor
  · rintro ⟨arg, hmem, hb⟩
    cases arg <;> cases hb
    exact hmem
  · exact fun hmem => ⟨_, hmem, rfl⟩

theorem mem_id? {args : List (KillArg κ)} {n : Int} :
    n ∈ args.filterMap id? ↔ ∃ v, .id v ∈ args ∧ v.value = n := by
  rw [List.mem_filterMap]
  constructor
  · rintro ⟨arg, hmem, hn⟩
    cases arg <;> cases hn
    exact ⟨_, hmem, rfl⟩
  · rintro ⟨v, hmem, rfl⟩
    exact ⟨_, hmem, rfl⟩

/-- The server keeps one filter of each kind. The assertions see to that but for the integers, and
there it is enough that all of them are the same. -/
theorem honours_iff {args : List (KillArg κ)} (addr : Option Bytes)
    (hdifferent : isDifferentTypes (args.map argType) = true) :
    (args.foldl set { addr := addr }).Honours addr args ↔
      ∀ v v', .id v ∈ args → .id v' ∈ args → v.value = v'.value := by
  have hsame {arg arg' : KillArg κ} (h : arg ∈ args) (h' : arg' ∈ args)
      (htype : arg.argType = arg'.argType) : arg = arg' :=
    List.inj_on_of_nodup_map (isDifferentTypes_iff.mp hdifferent) h h' htype
  have htype : ∀ t, (args.filterMap type?).getLast? = some t ↔ .type t ∈ args := by
    simp only [← mem_type?]
    refine (getLast?_eq_some_iff_mem _).mpr fun t ht t' ht' => ?_
    exact KillArg.type.inj (hsame (mem_type?.mp ht) (mem_type?.mp ht') rfl)
  have hskip : ∀ b, (args.filterMap skip?).getLast? = some b ↔ .skip b ∈ args := by
    simp only [← mem_skip?]
    refine (getLast?_eq_some_iff_mem _).mpr fun b hb b' hb' => ?_
    exact KillArg.skip.inj (hsame (mem_skip?.mp hb) (mem_skip?.mp hb') rfl)
  have hid := getLast?_eq_some_iff_mem (args.filterMap id?)
  simp only [mem_id?] at hid
  rw [foldl_set]
  constructor
  · intro h v v' hv hv'
    have hkept := h.id
    simp only [Option.or_none] at hkept
    exact hid.mp hkept _ ⟨v, hv, rfl⟩ _ ⟨v', hv', rfl⟩
  · intro h
    refine ⟨rfl, ?_, ?_, ?_⟩
    · simpa only [Option.or_none] using htype
    · simpa only [Option.or_none] using hskip
    · have hkept := hid.mpr (by
        rintro _ ⟨v, hv, rfl⟩ _ ⟨v', hv', rfl⟩
        exact h v v' hv hv')
      simpa only [Option.or_none] using hkept

end KillArg

/-! ## The calls that are honoured -/

section Calls

variable {κ : Type} {c : Client κ} {arg : KillArg κ} {args : List (KillArg κ)}

/-- Two words or more are filters. -/
theorem transmits_filters_iff {w w' : Bytes} {words : List Bytes} {callback : Option κ}
    {query : KillQuery} :
    Transmits readKill c
        (c.send (ascii "CLIENT" :: ascii "KILL" :: w :: w' :: words) callback) query ↔
      ∃ o, Options.read killTable (.between {}) (w :: w' :: words) = some o ∧ .filters o = query := by
  refine transmits_send_iff.trans ?_
  have hword : keyword (ascii "CLIENT") = ascii "CLIENT" ∧ keyword (ascii "KILL") = ascii "KILL" := by
    decide
  unfold readKill
  dsimp only
  rw [if_pos hword]
  exact Option.map_eq_some_iff

theorem transmits_addr_iff {addr : Bytes} {callback : Option κ} {query : KillQuery} :
    Transmits readKill c (c.send [ascii "CLIENT", ascii "KILL", addr] callback) query ↔
      .address addr = query := by
  refine transmits_send_iff.trans ?_
  have hword : keyword (ascii "CLIENT") = ascii "CLIENT" ∧ keyword (ascii "KILL") = ascii "KILL" := by
    decide
  unfold readKill
  dsimp only
  rw [if_pos hword]
  exact Option.some_inj

/-- A filter is two words. -/
theorem words_of_filter (h : arg.argType.isClass = false) : ∃ w w', arg.words = [w, w'] := by
  cases arg with
  | callback cb => cases h
  | _ => exact ⟨_, _, rfl⟩

/-- A callback is the last argument. -/
theorem last_of_callback (hend : callbackAtEnd (arg :: args) = true)
    (h : arg.argType.isClass = true) : args = [] := by
  cases args with
  | nil => rfl
  | cons next args =>
    have hfirst := (Bool.and_eq_true_iff.mp hend).1
    rw [h] at hfirst
    cases hfirst

/-- Every number can be read, and two numbers are the same. -/
def KillCall.OneId (call : KillCall κ) : Prop :=
  (∀ v, .id v ∈ call.args → 0 ≤ v.value ∧ v.value < 2 ^ 63) ∧
    ∀ v v', .id v ∈ call.args → .id v' ∈ call.args → v.value = v'.value

/-- A call that compiles is read as what it asks for, if and only if its integers are one
identifier: they are all the same, and the number is one that the server can read. The assertions
let two of them through when their types differ, and a negative one is sent as a great one. -/
theorem kill_transmitted_iff (c : Client κ) (call : KillCall κ) (h : call.Compiles) :
    (∃ query, Transmits readKill c (call.run c) query ∧ query.Honours call) ↔ call.OneId := by
  -- an address alone
  have halone {addr : Bytes} {callback : Option κ} {call : KillCall κ} (haddr : call.addr = some addr)
      (hargs : ∀ arg ∈ call.args, arg.argType.isClass = true) :
      (∃ query, Transmits readKill c (c.send [ascii "CLIENT", ascii "KILL", addr] callback) query ∧
        query.Honours call) ↔ call.OneId := by
    have hno (v : IntegralValue) : .id v ∉ call.args := fun hv => Bool.noConfusion (hargs _ hv)
    refine iff_of_true ⟨_, transmits_addr_iff.mpr rfl, haddr, hargs⟩ ?_
    exact ⟨fun v hv => absurd hv (hno v), fun v _ hv => absurd hv (hno v)⟩
  -- filters, after those that are read already
  have hfilters {addr : Option Bytes} {call : KillCall κ} {w w' : Bytes} {words : List Bytes}
      {callback : Option κ} (haddr : call.addr = addr)
      (hdifferent : isDifferentTypes (call.args.map KillArg.argType) = true)
      (hread : Options.read killTable (.between {}) (w :: w' :: words) =
        Options.read killTable (.between { addr := addr }) (call.args.flatMap KillArg.words)) :
      (∃ query, Transmits readKill c
          (c.send (ascii "CLIENT" :: ascii "KILL" :: w :: w' :: words) callback) query ∧
        query.Honours call) ↔ call.OneId := by
    have hhonours := KillArg.honours_iff addr hdifferent
    constructor
    · rintro ⟨query, htransmits, hquery⟩
      obtain ⟨o, ho, rfl⟩ := transmits_filters_iff.mp htransmits
      obtain ⟨hlong, rfl⟩ := (read_killWords_iff _ _ _).mp (hread.symm.trans ho)
      have hquery : KillFilters.Honours _ call.addr call.args := hquery
      rw [haddr] at hquery
      exact ⟨fun v hv => hlong _ hv, hhonours.mp hquery⟩
    · rintro ⟨hlong, hsame⟩
      refine ⟨_, transmits_filters_iff.mpr ⟨_, hread.trans ((read_killWords_iff _ _ _).mpr ⟨?_, rfl⟩),
        rfl⟩, ?_⟩
      · intro arg harg
        cases arg with
        | id v => exact hlong v harg
        | _ => exact trivial
      · show KillFilters.Honours _ call.addr call.args
        rw [haddr]
        exact hhonours.mpr hsame
  cases call with
  | hostOnly host port => exact halone rfl (List.forall_mem_nil _)
  | filters arg args =>
    obtain ⟨hdifferent, hsome, hend⟩ := h
    have hfilter : arg.argType.isClass = false := by
      refine Bool.eq_false_iff.mpr fun hclass => hsome ⟨hclass, ?_⟩
      rw [last_of_callback hend hclass]
      rfl
    obtain ⟨w, w', hwords⟩ := words_of_filter hfilter
    obtain ⟨cb, himpl⟩ := clientKillImpl_eq [ascii "CLIENT", ascii "KILL"] none (arg :: args)
    have hrun : (KillCall.filters arg args).run c =
        c.send (ascii "CLIENT" :: ascii "KILL" :: w :: w' :: args.flatMap KillArg.words) cb := by
      rw [List.flatMap_cons, hwords] at himpl
      show (let (redisCmd, replyCb) := clientKillImpl _ none (arg :: args); c.send redisCmd replyCb) = _
      rw [himpl]
      rfl
    rw [hrun]
    refine hfilters rfl hdifferent ?_
    show _ = Options.read killTable _ ((arg :: args).flatMap KillArg.words)
    rw [List.flatMap_cons, hwords]
    rfl
  | address host port arg args =>
    obtain ⟨hdifferent, hend⟩ := h
    obtain ⟨cb, himpl⟩ := clientKillImpl_eq
      ((if arg.argType.isClass then [ascii "CLIENT", ascii "KILL"]
        else [ascii "CLIENT", ascii "KILL"] ++ [ascii "ADDR"]) ++ [killAddr host port]) none (arg :: args)
    have hsent : (KillCall.address host port arg args).run c =
        c.send (((if arg.argType.isClass then [ascii "CLIENT", ascii "KILL"]
          else [ascii "CLIENT", ascii "KILL"] ++ [ascii "ADDR"]) ++ [killAddr host port]) ++
            (arg :: args).flatMap KillArg.words) cb := by
      show (let (redisCmd, replyCb) := clientKillImpl _ none (arg :: args); c.send redisCmd replyCb) = _
      rw [himpl]
    rw [hsent]
    cases hclass : arg.argType.isClass with
    | true =>
      obtain rfl := last_of_callback hend hclass
      have hwords : [arg].flatMap KillArg.words = [] := by
        cases arg with
        | callback cb => rfl
        | _ => cases hclass
      rw [hwords]
      refine halone rfl fun arg' harg => ?_
      rw [List.mem_singleton.mp harg]
      exact hclass
    | false => exact hfilters rfl hdifferent rfl

/-- An `int` and a `long` that differ. -/
def KillCall.twoIds : KillCall Unit :=
  .filters (.id ⟨.int, 7, by decide⟩) [.id ⟨.long, 8, by decide⟩]

/-- They compile, and no query that the server may read is what they ask for. -/
theorem kill_transmitted_twoIds :
    ¬ ∃ query, Transmits readKill {} (KillCall.twoIds.run {}) query ∧ query.Honours KillCall.twoIds :=
  fun hread => absurd
    (((kill_transmitted_iff {} KillCall.twoIds ⟨rfl, nofun, rfl⟩).mp hread).2
      ⟨.int, 7, by decide⟩ ⟨.long, 8, by decide⟩ (.head _) (.tail _ (.head _)))
    (by decide)

end Calls

end CppRedis
