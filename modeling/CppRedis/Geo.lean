import CppRedis.Sort

/-!
# GEORADIUS and GEORADIUSBYMEMBER

The argument vectors of the overloads of `client::georadius` and `client::georadiusbymember`,
against what the server reads of them. Both write the key to store in under `STOREDIST`, with the
key of the distances.

* `radiusTable`: the options of the server, written from the command and not from the code.
* `reads_radiusOptions`: what the vectors are read as.
* `georadius_transmitted_iff`: what is asked for is sent, if and only if there is no key to
  store in.
-/

namespace CppRedis

open Text Options

/-! ## The commands -/

/-- A `double`, known by what `std::to_string` prints of it. -/
structure Double where
  token : Bytes
deriving DecidableEq, Repr

/-- `geo_unit`. -/
inductive GeoUnit
  | m
  | km
  | ft
  | mi
deriving DecidableEq, Repr

/-- `geo_unit_to_string`. -/
def GeoUnit.toBytes : GeoUnit → Bytes
  | .m => ascii "m"
  | .km => ascii "km"
  | .ft => ascii "ft"
  | .mi => ascii "mi"

/-- What the full overloads of both push after the unit. -/
def radiusOptions (withCoord withDist withHash ascOrder : Bool) (count : Nat)
    (storeKey storedistKey : Bytes) : List Bytes :=
  (if withCoord then [ascii "WITHCOORD"] else []) ++
    (if withDist then [ascii "WITHDIST"] else []) ++
    (if withHash then [ascii "WITHHASH"] else []) ++
    [orderBytes ascOrder] ++
    (if 0 < count then [ascii "COUNT", decimal count] else []) ++
    -- under the keyword of the other key, and with the other key
    (if storeKey ≠ [] then [ascii "STOREDIST", storedistKey] else []) ++
    (if storedistKey ≠ [] then [ascii "STOREDIST", storedistKey] else [])

namespace Client

variable {κ : Type}

/-- `georadius`, the full overload. -/
def georadius (key : Bytes) (longitude latitude radius : Double) (unit : GeoUnit)
    (withCoord withDist withHash ascOrder : Bool) (count : Nat) (storeKey storedistKey : Bytes)
    (callback : Option κ) (c : Client κ) : Client κ :=
  c.send ([ascii "GEORADIUS", key, longitude.token, latitude.token, radius.token, unit.toBytes] ++
    radiusOptions withCoord withDist withHash ascOrder count storeKey storedistKey) callback

/-- `georadius(…, asc_order)`. -/
def georadiusPlain (key : Bytes) (longitude latitude radius : Double) (unit : GeoUnit)
    (withCoord withDist withHash ascOrder : Bool) (callback : Option κ) (c : Client κ) : Client κ :=
  c.georadius key longitude latitude radius unit withCoord withDist withHash ascOrder 0 [] []
    callback

/-- `georadius(…, asc_order, count)`. -/
def georadiusCount (key : Bytes) (longitude latitude radius : Double) (unit : GeoUnit)
    (withCoord withDist withHash ascOrder : Bool) (count : Nat) (callback : Option κ)
    (c : Client κ) : Client κ :=
  c.georadius key longitude latitude radius unit withCoord withDist withHash ascOrder count [] []
    callback

/-- `georadius(…, asc_order, store_key)`. -/
def georadiusStore (key : Bytes) (longitude latitude radius : Double) (unit : GeoUnit)
    (withCoord withDist withHash ascOrder : Bool) (storeKey : Bytes) (callback : Option κ)
    (c : Client κ) : Client κ :=
  c.georadius key longitude latitude radius unit withCoord withDist withHash ascOrder 0 storeKey []
    callback

/-- `georadius(…, asc_order, store_key, storedist_key)`. -/
def georadiusStoredist (key : Bytes) (longitude latitude radius : Double) (unit : GeoUnit)
    (withCoord withDist withHash ascOrder : Bool) (storeKey storedistKey : Bytes)
    (callback : Option κ) (c : Client κ) : Client κ :=
  c.georadius key longitude latitude radius unit withCoord withDist withHash ascOrder 0 storeKey
    storedistKey callback

/-- `georadius(…, asc_order, count, store_key)`. -/
def georadiusCountStore (key : Bytes) (longitude latitude radius : Double) (unit : GeoUnit)
    (withCoord withDist withHash ascOrder : Bool) (count : Nat) (storeKey : Bytes)
    (callback : Option κ) (c : Client κ) : Client κ :=
  c.georadius key longitude latitude radius unit withCoord withDist withHash ascOrder count storeKey
    [] callback

/-- `georadiusbymember`, the full overload. -/
def georadiusbymember (key member : Bytes) (radius : Double) (unit : GeoUnit)
    (withCoord withDist withHash ascOrder : Bool) (count : Nat) (storeKey storedistKey : Bytes)
    (callback : Option κ) (c : Client κ) : Client κ :=
  c.send ([ascii "GEORADIUSBYMEMBER", key, member, radius.token, unit.toBytes] ++
    radiusOptions withCoord withDist withHash ascOrder count storeKey storedistKey) callback

/-- `georadiusbymember(…, asc_order)`. -/
def georadiusbymemberPlain (key member : Bytes) (radius : Double) (unit : GeoUnit)
    (withCoord withDist withHash ascOrder : Bool) (callback : Option κ) (c : Client κ) : Client κ :=
  c.georadiusbymember key member radius unit withCoord withDist withHash ascOrder 0 [] [] callback

/-- `georadiusbymember(…, asc_order, count)`. -/
def georadiusbymemberCount (key member : Bytes) (radius : Double) (unit : GeoUnit)
    (withCoord withDist withHash ascOrder : Bool) (count : Nat) (callback : Option κ)
    (c : Client κ) : Client κ :=
  c.georadiusbymember key member radius unit withCoord withDist withHash ascOrder count [] []
    callback

/-- `georadiusbymember(…, asc_order, store_key)`. -/
def georadiusbymemberStore (key member : Bytes) (radius : Double) (unit : GeoUnit)
    (withCoord withDist withHash ascOrder : Bool) (storeKey : Bytes) (callback : Option κ)
    (c : Client κ) : Client κ :=
  c.georadiusbymember key member radius unit withCoord withDist withHash ascOrder 0 storeKey []
    callback

/-- `georadiusbymember(…, asc_order, store_key, storedist_key)`. -/
def georadiusbymemberStoredist (key member : Bytes) (radius : Double) (unit : GeoUnit)
    (withCoord withDist withHash ascOrder : Bool) (storeKey storedistKey : Bytes)
    (callback : Option κ) (c : Client κ) : Client κ :=
  c.georadiusbymember key member radius unit withCoord withDist withHash ascOrder 0 storeKey
    storedistKey callback

/-- `georadiusbymember(…, asc_order, count, store_key)`. -/
def georadiusbymemberCountStore (key member : Bytes) (radius : Double) (unit : GeoUnit)
    (withCoord withDist withHash ascOrder : Bool) (count : Nat) (storeKey : Bytes)
    (callback : Option κ) (c : Client κ) : Client κ :=
  c.georadiusbymember key member radius unit withCoord withDist withHash ascOrder count storeKey []
    callback

end Client

/-! ## The server -/

/-- The options of a search by radius, as the server has read them. -/
structure RadiusOptions where
  withCoord : Bool := false
  withDist : Bool := false
  withHash : Bool := false
  order : Option Order := none
  count : Option Nat := none
  store : Option Bytes := none
  storedist : Option Bytes := none
deriving DecidableEq, Repr

/-- What a search is around. -/
inductive Origin
  | coordinates (longitude latitude : Double)
  | member (member : Bytes)
deriving DecidableEq, Repr

/-- A search by radius. -/
structure RadiusQuery where
  key : Bytes
  origin : Origin
  radius : Double
  unit : GeoUnit
  options : RadiusOptions
deriving DecidableEq, Repr

/-- The option that a word starts. -/
def radiusTable (word : Bytes) (o : RadiusOptions) : Option (Reading Bytes RadiusOptions) :=
  if keyword word = ascii "WITHCOORD" then some (.between { o with withCoord := true })
  else if keyword word = ascii "WITHDIST" then some (.between { o with withDist := true })
  else if keyword word = ascii "WITHHASH" then some (.between { o with withHash := true })
  else if keyword word = ascii "ASC" then some (.between { o with order := some .asc })
  else if keyword word = ascii "DESC" then some (.between { o with order := some .desc })
  else if keyword word = ascii "COUNT" then
    some (.inside fun limit => (readDecimal limit).map fun count =>
      .between { o with count := some count })
  else if keyword word = ascii "STORE" then
    some (.inside fun key => some (.between { o with store := some key }))
  else if keyword word = ascii "STOREDIST" then
    some (.inside fun key => some (.between { o with storedist := some key }))
  else none

def readUnit (word : Bytes) : Option GeoUnit :=
  if keyword word = ascii "M" then some .m
  else if keyword word = ascii "KM" then some .km
  else if keyword word = ascii "FT" then some .ft
  else if keyword word = ascii "MI" then some .mi
  else none

/-- The radius of a search, its unit and its options. -/
def readArea (key : Bytes) (origin : Origin) : List Bytes → Option RadiusQuery
  | radius :: unit :: words =>
    (readUnit unit).bind fun unit =>
      (Options.read radiusTable (.between {}) words).map fun options =>
        ⟨key, origin, ⟨radius⟩, unit, options⟩
  | _ => none

/-- A GEORADIUS or GEORADIUSBYMEMBER command. -/
def readRadius : Command → Option RadiusQuery
  | word :: key :: origin :: rest =>
    if keyword word = ascii "GEORADIUS" then
      match rest with
      | latitude :: rest => readArea key (.coordinates ⟨origin⟩ ⟨latitude⟩) rest
      | [] => none
    else if keyword word = ascii "GEORADIUSBYMEMBER" then readArea key (.member origin) rest
    else none
  | _ => none

/-! ## What the vectors are read as -/

/-- The options that the arguments of a full overload ask for. -/
def askedRadius (withCoord withDist withHash ascOrder : Bool) (count : Nat)
    (storeKey storedistKey : Bytes) : RadiusOptions where
  withCoord := withCoord
  withDist := withDist
  withHash := withHash
  order := some (.of ascOrder)
  count := if 0 < count then some count else none
  store := given storeKey
  storedist := given storedistKey

/-- The options that are read in their place. -/
def sentRadius (withCoord withDist withHash ascOrder : Bool) (count : Nat)
    (storeKey storedistKey : Bytes) : RadiusOptions :=
  { askedRadius withCoord withDist withHash ascOrder count storeKey storedistKey with
    store := none
    storedist := if storeKey ≠ [] then some storedistKey else given storedistKey }

section

variable {o : RadiusOptions}

theorem reads_withCoord (withCoord : Bool) (h : o.withCoord = false) :
    Reads radiusTable (if withCoord then [ascii "WITHCOORD"] else []) o { o with withCoord := withCoord } :=
  .switch withCoord (fun withCoord => { o with withCoord := withCoord }) rfl (by rw [← h])

theorem reads_withDist (withDist : Bool) (h : o.withDist = false) :
    Reads radiusTable (if withDist then [ascii "WITHDIST"] else []) o { o with withDist := withDist } :=
  .switch withDist (fun withDist => { o with withDist := withDist }) rfl (by rw [← h])

theorem reads_withHash (withHash : Bool) (h : o.withHash = false) :
    Reads radiusTable (if withHash then [ascii "WITHHASH"] else []) o { o with withHash := withHash } :=
  .switch withHash (fun withHash => { o with withHash := withHash }) rfl (by rw [← h])

theorem reads_radius_order (ascOrder : Bool) :
    Reads radiusTable [orderBytes ascOrder] o { o with order := some (.of ascOrder) } := by
  cases ascOrder with
  | false => exact .flag rfl
  | true => exact .flag rfl

theorem reads_count (count : Nat) (h : o.count = none) :
    Reads radiusTable (if 0 < count then [ascii "COUNT", decimal count] else []) o
      { o with count := if 0 < count then some count else none } :=
  .optional (fun count => { o with count := count }) rfl
    (congrArg (Option.map _) (readDecimal_decimal count)) (by rw [← h])

theorem reads_storedist (key : Bytes) {p : Prop} [Decidable p] :
    Reads radiusTable (if p then [ascii "STOREDIST", key] else []) o
      { o with storedist := if p then some key else o.storedist } := by
  refine Reads.ite (fun hp => ?_) (fun hp => ?_)
  · rw [if_pos hp]
    exact .argument rfl rfl
  · rw [if_neg hp]

end

/-- The options of both vectors, section by section: no key to store in is ever read. -/
theorem reads_radiusOptions (withCoord withDist withHash ascOrder : Bool) (count : Nat)
    (storeKey storedistKey : Bytes) :
    Reads radiusTable
      (radiusOptions withCoord withDist withHash ascOrder count storeKey storedistKey) {}
      (sentRadius withCoord withDist withHash ascOrder count storeKey storedistKey) := by
  have hall := (((((((reads_withCoord (o := {}) withCoord rfl).append
    (reads_withDist withDist rfl)).append (reads_withHash withHash rfl)).append
    (reads_radius_order ascOrder)).append (reads_count count rfl)).append
    (reads_storedist storedistKey (p := storeKey ≠ []))).append
    (reads_storedist storedistKey (p := storedistKey ≠ [])))
  unfold sentRadius askedRadius given
  by_cases hs : storeKey = []
  · simpa [radiusOptions, hs] using hall
  · simpa [radiusOptions, hs] using hall

/-! ## What is transmitted -/

theorem readUnit_toBytes (unit : GeoUnit) : readUnit unit.toBytes = some unit := by
  cases unit with
  | m => decide
  | km => decide
  | ft => decide
  | mi => decide

/-- The overloads of each of the two, each with the arguments that not all of them have. -/
inductive RadiusOverload
  | plain
  | counted (count : Nat)
  | store (storeKey : Bytes)
  | storedist (storeKey storedistKey : Bytes)
  | countStore (count : Nat) (storeKey : Bytes)
  | full (count : Nat) (storeKey storedistKey : Bytes)
deriving DecidableEq, Repr

/-- A call of an overload of `georadius` or of `georadiusbymember`. -/
def Client.radiusOverload {κ : Type} (overload : RadiusOverload) (origin : Origin) (key : Bytes)
    (radius : Double) (unit : GeoUnit) (withCoord withDist withHash ascOrder : Bool)
    (callback : Option κ) (c : Client κ) : Client κ :=
  match origin, overload with
  | .coordinates longitude latitude, .plain =>
    c.georadiusPlain key longitude latitude radius unit withCoord withDist withHash ascOrder
      callback
  | .coordinates longitude latitude, .counted count =>
    c.georadiusCount key longitude latitude radius unit withCoord withDist withHash ascOrder count
      callback
  | .coordinates longitude latitude, .store storeKey =>
    c.georadiusStore key longitude latitude radius unit withCoord withDist withHash ascOrder
      storeKey callback
  | .coordinates longitude latitude, .storedist storeKey storedistKey =>
    c.georadiusStoredist key longitude latitude radius unit withCoord withDist withHash ascOrder
      storeKey storedistKey callback
  | .coordinates longitude latitude, .countStore count storeKey =>
    c.georadiusCountStore key longitude latitude radius unit withCoord withDist withHash ascOrder
      count storeKey callback
  | .coordinates longitude latitude, .full count storeKey storedistKey =>
    c.georadius key longitude latitude radius unit withCoord withDist withHash ascOrder count
      storeKey storedistKey callback
  | .member member, .plain =>
    c.georadiusbymemberPlain key member radius unit withCoord withDist withHash ascOrder callback
  | .member member, .counted count =>
    c.georadiusbymemberCount key member radius unit withCoord withDist withHash ascOrder count
      callback
  | .member member, .store storeKey =>
    c.georadiusbymemberStore key member radius unit withCoord withDist withHash ascOrder storeKey
      callback
  | .member member, .storedist storeKey storedistKey =>
    c.georadiusbymemberStoredist key member radius unit withCoord withDist withHash ascOrder
      storeKey storedistKey callback
  | .member member, .countStore count storeKey =>
    c.georadiusbymemberCountStore key member radius unit withCoord withDist withHash ascOrder count
      storeKey callback
  | .member member, .full count storeKey storedistKey =>
    c.georadiusbymember key member radius unit withCoord withDist withHash ascOrder count storeKey
      storedistKey callback

namespace RadiusOverload

/-- The key to store in that a call names; empty where the overload has none. -/
def storeKey : RadiusOverload → Bytes
  | .plain => []
  | .counted _ => []
  | .store storeKey => storeKey
  | .storedist storeKey _ => storeKey
  | .countStore _ storeKey => storeKey
  | .full _ storeKey _ => storeKey

/-- The options that a call asks for: its own arguments, and the defaults for the rest. -/
def asked (overload : RadiusOverload) (withCoord withDist withHash ascOrder : Bool) :
    RadiusOptions :=
  let options := askedRadius withCoord withDist withHash ascOrder
  match overload with
  | .plain => options 0 [] []
  | .counted count => options count [] []
  | .store storeKey => options 0 storeKey []
  | .storedist storeKey storedistKey => options 0 storeKey storedistKey
  | .countStore count storeKey => options count storeKey []
  | .full count storeKey storedistKey => options count storeKey storedistKey

end RadiusOverload

theorem sentRadius_eq_iff {withCoord withDist withHash ascOrder : Bool} {count : Nat}
    {storeKey storedistKey : Bytes} :
    sentRadius withCoord withDist withHash ascOrder count storeKey storedistKey =
      askedRadius withCoord withDist withHash ascOrder count storeKey storedistKey ↔
      storeKey = [] := by
  constructor
  · intro h
    have hstore : none = given storeKey := congrArg RadiusOptions.store h
    by_contra hs
    rw [given, if_pos hs] at hstore
    cases hstore
  · rintro rfl
    rfl

theorem readArea_radiusOptions (key : Bytes) (origin : Origin) (radius : Double) (unit : GeoUnit)
    (withCoord withDist withHash ascOrder : Bool) (count : Nat) (storeKey storedistKey : Bytes) :
    readArea key origin (radius.token :: unit.toBytes ::
      radiusOptions withCoord withDist withHash ascOrder count storeKey storedistKey) =
      some ⟨key, origin, radius, unit,
        sentRadius withCoord withDist withHash ascOrder count storeKey storedistKey⟩ := by
  have hoptions :=
    (reads_radiusOptions withCoord withDist withHash ascOrder count storeKey storedistKey).read_eq
  rw [readArea, readUnit_toBytes, Option.bind_some, hoptions, Option.map_some]

theorem transmits_georadius_iff {κ : Type} (c : Client κ) (key : Bytes)
    (longitude latitude radius : Double) (unit : GeoUnit)
    (withCoord withDist withHash ascOrder : Bool) (count : Nat) (storeKey storedistKey : Bytes)
    (callback : Option κ) :
    Transmits readRadius c (c.georadius key longitude latitude radius unit withCoord withDist
      withHash ascOrder count storeKey storedistKey callback)
      ⟨key, .coordinates longitude latitude, radius, unit,
        askedRadius withCoord withDist withHash ascOrder count storeKey storedistKey⟩ ↔
      storeKey = [] := by
  have hword : keyword (ascii "GEORADIUS") = ascii "GEORADIUS" := by decide
  rw [Client.georadius, transmits_send_iff]
  simp only [List.cons_append, List.nil_append, readRadius, if_pos hword]
  rw [readArea_radiusOptions, Option.some.injEq, RadiusQuery.mk.injEq]
  simp only [true_and]
  exact sentRadius_eq_iff

theorem transmits_georadiusbymember_iff {κ : Type} (c : Client κ) (key member : Bytes)
    (radius : Double) (unit : GeoUnit) (withCoord withDist withHash ascOrder : Bool) (count : Nat)
    (storeKey storedistKey : Bytes) (callback : Option κ) :
    Transmits readRadius c (c.georadiusbymember key member radius unit withCoord withDist withHash
      ascOrder count storeKey storedistKey callback)
      ⟨key, .member member, radius, unit,
        askedRadius withCoord withDist withHash ascOrder count storeKey storedistKey⟩ ↔
      storeKey = [] := by
  have hword : keyword (ascii "GEORADIUSBYMEMBER") = ascii "GEORADIUSBYMEMBER" := by decide
  have hnot : keyword (ascii "GEORADIUSBYMEMBER") ≠ ascii "GEORADIUS" := by decide
  rw [Client.georadiusbymember, transmits_send_iff]
  simp only [List.cons_append, List.nil_append, readRadius, if_neg hnot, if_pos hword]
  rw [readArea_radiusOptions, Option.some.injEq, RadiusQuery.mk.injEq]
  simp only [true_and]
  exact sentRadius_eq_iff

/-- A call sends what it asks for, if and only if it names no key to store in: `STORE` is never
sent. -/
theorem georadius_transmitted_iff {κ : Type} (c : Client κ) (overload : RadiusOverload)
    (origin : Origin) (key : Bytes) (radius : Double) (unit : GeoUnit)
    (withCoord withDist withHash ascOrder : Bool) (callback : Option κ) :
    Transmits readRadius c
      (c.radiusOverload overload origin key radius unit withCoord withDist withHash ascOrder
        callback)
      ⟨key, origin, radius, unit, overload.asked withCoord withDist withHash ascOrder⟩ ↔
      overload.storeKey = [] := by
  cases origin with
  | coordinates longitude latitude =>
    cases overload with
    | plain => exact transmits_georadius_iff ..
    | counted count => exact transmits_georadius_iff ..
    | store storeKey => exact transmits_georadius_iff ..
    | storedist storeKey storedistKey => exact transmits_georadius_iff ..
    | countStore count storeKey => exact transmits_georadius_iff ..
    | full count storeKey storedistKey => exact transmits_georadius_iff ..
  | member member =>
    cases overload with
    | plain => exact transmits_georadiusbymember_iff ..
    | counted count => exact transmits_georadiusbymember_iff ..
    | store storeKey => exact transmits_georadiusbymember_iff ..
    | storedist storeKey storedistKey => exact transmits_georadiusbymember_iff ..
    | countStore count storeKey => exact transmits_georadiusbymember_iff ..
    | full count storeKey storedistKey => exact transmits_georadiusbymember_iff ..

/-- A search that is to be stored is sent with an empty key for the distances, and with no key to
store in. -/
theorem not_transmitted_store : ¬ Transmits readRadius ({} : Client Unit)
    (Client.georadius (ascii "Sicily") ⟨ascii "15.000000"⟩ ⟨ascii "37.000000"⟩
      ⟨ascii "200.000000"⟩ .km false false false true 0 (ascii "near") [] none {})
    ⟨ascii "Sicily", .coordinates ⟨ascii "15.000000"⟩ ⟨ascii "37.000000"⟩, ⟨ascii "200.000000"⟩,
      .km, askedRadius false false false true 0 (ascii "near") []⟩ := by
  rintro ⟨request, hrequest, -, hread⟩
  cases hrequest
  revert hread
  decide

end CppRedis
