import CppRedis.Lib.Machine
import CppRedis.Reply
import Mathlib.Logic.Function.Basic

/-!
# What a reply shows

The class `reply` keeps the members of the values it had before. Here it is compared with a value
that has no such members, over any history of constructions, `set`s, `operator<<` and copies of
named replies.

* `Resp`: a value and nothing else, with the same observers.
* `Shows`: the observers cannot tell a reply from a value, at any depth. `shows_iff` says that a
  reply shows one value.
* `always_shown_iff`: the replies of a run show what the values are, if and only if `operator<<`
  is applied to arrays, and else only to replies that hold no rows and are not their own operand.
-/

namespace CppRedis

open Text

/-! ## Values -/

/-- A value, with no trace of another one. -/
inductive Resp
  | null
  | string (type : StringType) (value : Bytes)
  | integer (value : Int)
  | array (rows : List Resp)

namespace Resp

def type : Resp → ReplyType
  | .null => .null
  | .string type _ => type.toType
  | .integer _ => .integer
  | .array _ => .array

/-- An array gets one more row; any other value becomes an array of one row. -/
def append : Resp → Resp → Resp
  | .array rows, row => .array (rows ++ [row])
  | _, row => .array [row]

def asString : Resp → Except Fault Bytes
  | .string _ value => .ok value
  | _ => .error (.redisError "Reply is not a string")

def asInteger : Resp → Except Fault Int
  | .integer value => .ok value
  | _ => .error (.redisError "Reply is not an integer")

def asArray : Resp → Except Fault (List Resp)
  | .array rows => .ok rows
  | _ => .error (.redisError "Reply is not an array")

end Resp

/-! ## Observers -/

/-- What the observers say of one reply, the rows aside: `get_type`, the `is_*`, `as_string`,
`as_integer`, and the number of rows of `as_array`. -/
structure Observation where
  getType : ReplyType
  isArray : Bool
  isString : Bool
  isSimpleString : Bool
  isBulkString : Bool
  isError : Bool
  isInteger : Bool
  isNull : Bool
  asString : Except Fault Bytes
  asInteger : Except Fault Int
  rowCount : Except Fault Nat

def Reply.observe (r : Reply) : Observation where
  getType := r.type
  isArray := r.isArray
  isString := r.isString
  isSimpleString := r.isSimpleString
  isBulkString := r.isBulkString
  isError := r.isError
  isInteger := r.isInteger
  isNull := r.isNull
  asString := r.asString
  asInteger := r.asInteger
  rowCount := r.asArray.map List.length

/-- The same for a value: each `is_*` says what the type is. -/
def Resp.observe (v : Resp) : Observation where
  getType := v.type
  isArray := v.type = .array
  isString := v.type = .simpleString ∨ v.type = .bulkString ∨ v.type = .error
  isSimpleString := v.type = .simpleString
  isBulkString := v.type = .bulkString
  isError := v.type = .error
  isInteger := v.type = .integer
  isNull := v.type = .null
  asString := v.asString
  asInteger := v.asInteger
  rowCount := v.asArray.map List.length

/-- The row of a row of …, down a path of indices; `as_array` throws where there is no array. -/
def Reply.row (r : Reply) : List Nat → Option Reply
  | [] => some r
  | i :: path =>
    match r.asArray with
    | .ok rows => rows[i]?.bind fun row => row.row path
    | .error _ => none

def Resp.row (v : Resp) : List Nat → Option Resp
  | [] => some v
  | i :: path =>
    match v.asArray with
    | .ok rows => rows[i]?.bind fun row => row.row path
    | .error _ => none

/-- Nothing that can be observed of the reply or of its rows tells it from the value. -/
def Shows (r : Reply) (v : Resp) : Prop :=
  ∀ path, (r.row path).map Reply.observe = (v.row path).map Resp.observe

/-! ## The value of a reply -/

mutual

/-- The value that a reply shows. -/
def Reply.value : Reply → Resp
  | ⟨.error, _, strval, _⟩ => .string .error strval
  | ⟨.bulkString, _, strval, _⟩ => .string .bulkString strval
  | ⟨.simpleString, _, strval, _⟩ => .string .simpleString strval
  | ⟨.null, _, _, _⟩ => .null
  | ⟨.integer, _, _, intval⟩ => .integer intval
  | ⟨.array, rows, _, _⟩ => .array (Reply.values rows)

def Reply.values : List Reply → List Resp
  | [] => []
  | r :: rows => r.value :: Reply.values rows

end

theorem Reply.values_eq_map (rows : List Reply) : Reply.values rows = rows.map Reply.value := by
  induction rows with
  | nil => rfl
  | cons r rows ih => rw [Reply.values, ih, List.map_cons]

theorem Reply.asArray_value (r : Reply) :
    r.value.asArray = r.asArray.map (List.map Reply.value) := by
  obtain ⟨type, rows, strval, intval⟩ := r
  cases type with
  | array => exact congrArg Except.ok (Reply.values_eq_map rows)
  | error => rfl
  | bulkString => rfl
  | simpleString => rfl
  | null => rfl
  | integer => rfl

theorem Reply.observe_value (r : Reply) : r.value.observe = r.observe := by
  have hrows : r.value.asArray.map List.length = r.asArray.map List.length := by
    rw [Reply.asArray_value]
    cases r.asArray with
    | error fault => rfl
    | ok rows => exact congrArg Except.ok (List.length_map _)
  obtain ⟨type, rows, strval, intval⟩ := r
  rw [Resp.observe, hrows]
  cases type with
  | array => rfl
  | error => rfl
  | bulkString => rfl
  | simpleString => rfl
  | null => rfl
  | integer => rfl

theorem Reply.row_value (r : Reply) (path : List Nat) :
    r.value.row path = (r.row path).map Reply.value := by
  induction path generalizing r with
  | nil => rfl
  | cons i path ih =>
    rw [Resp.row, Reply.row, Reply.asArray_value]
    cases r.asArray with
    | error fault => rfl
    | ok rows =>
      change ((rows.map Reply.value)[i]?.bind fun row => row.row path) =
        (rows[i]?.bind fun row => row.row path).map Reply.value
      rw [List.getElem?_map]
      cases rows[i]? with
      | none => rfl
      | some row => exact ih row

theorem shows_value (r : Reply) : Shows r r.value := by
  intro path
  rw [Reply.row_value, Option.map_map]
  congr 1
  exact funext fun row => (Reply.observe_value row).symm

/-- No observer tells two values apart, at any depth. -/
def Resp.Alike (v w : Resp) : Prop :=
  ∀ path, (v.row path).map Resp.observe = (w.row path).map Resp.observe

namespace Resp.Alike

variable {v w : Resp}

theorem observe_eq (h : Alike v w) : v.observe = w.observe :=
  Option.some.inj (h [])

theorem type_eq (h : Alike v w) : v.type = w.type :=
  congrArg Observation.getType h.observe_eq

theorem asString_eq (h : Alike v w) : v.asString = w.asString :=
  congrArg Observation.asString h.observe_eq

theorem asInteger_eq (h : Alike v w) : v.asInteger = w.asInteger :=
  congrArg Observation.asInteger h.observe_eq

theorem rowCount_eq (h : Alike v w) : v.asArray.map List.length = w.asArray.map List.length :=
  congrArg Observation.rowCount h.observe_eq

theorem getElem {rows rows' : List Resp} (h : Alike (.array rows) (.array rows')) {i : Nat}
    (hi : i < rows.length) (hi' : i < rows'.length) : Alike rows[i] rows'[i] := by
  intro path
  have hpath := h (i :: path)
  simpa [Resp.row, Resp.asArray, List.getElem?_eq_getElem, hi, hi'] using hpath

/-- The observers tell values apart: they give the kind of a value and the number of its rows, and
each row is observed on its own. -/
theorem eq : ∀ {v w : Resp}, Alike v w → v = w
  | .null, .null, _ => rfl
  | .string type value, .string type' value', h => by
    have htype := h.type_eq
    cases h.asString_eq
    cases type <;> cases type' <;> first | rfl | cases htype
  | .integer value, .integer value', h => by
    cases h.asInteger_eq
    rfl
  | .array rows, .array rows', h => by
    have hlength : rows.length = rows'.length := Except.ok.inj h.rowCount_eq
    have hrows : ∀ i (hi : i < rows.length) (hi' : i < rows'.length), rows[i] = rows'[i] :=
      fun i hi hi' => (h.getElem hi hi').eq
    rw [List.ext_getElem hlength hrows]
  | .null, .string _ _, h => nomatch h.asString_eq
  | .null, .integer _, h => nomatch h.asInteger_eq
  | .null, .array _, h => nomatch h.rowCount_eq
  | .string _ _, .null, h => nomatch h.asString_eq
  | .string _ _, .integer _, h => nomatch h.asString_eq
  | .string _ _, .array _, h => nomatch h.asString_eq
  | .integer _, .null, h => nomatch h.asInteger_eq
  | .integer _, .string _ _, h => nomatch h.asInteger_eq
  | .integer _, .array _, h => nomatch h.asInteger_eq
  | .array _, .null, h => nomatch h.rowCount_eq
  | .array _, .string _ _, h => nomatch h.asString_eq
  | .array _, .integer _, h => nomatch h.asInteger_eq
termination_by v => sizeOf v
decreasing_by
  have hrow := List.sizeOf_lt_of_mem (List.getElem_mem hi)
  rw [Resp.array.sizeOf_spec]
  omega

end Resp.Alike

/-- A reply shows one value. -/
theorem shows_iff {r : Reply} {v : Resp} : Shows r v ↔ r.value = v := by
  constructor
  · intro h
    refine Resp.Alike.eq fun path => ?_
    rw [← h path, ← shows_value r path]
  · rintro rfl
    exact shows_value r

/-! ## Operations -/

namespace Reply

theorem value_setNull (r : Reply) : r.setNull.value = .null :=
  rfl

theorem value_setString (r : Reply) (value : Bytes) (type : StringType) :
    (r.setString value type).value = .string type value := by
  cases type with
  | error => rfl
  | bulkString => rfl
  | simpleString => rfl

theorem value_setInteger (r : Reply) (value : Int) : (r.setInteger value).value = .integer value :=
  rfl

theorem value_setRows (r : Reply) (rows : List Reply) :
    (r.setRows rows).value = .array (rows.map value) :=
  congrArg Resp.array (values_eq_map rows)

theorem value_append (r row : Reply) :
    (r.append row).value = .array (r.rows.map value ++ [row.value]) := by
  refine congrArg Resp.array ?_
  rw [values_eq_map, List.map_append]
  rfl

theorem value_of_isArray {r : Reply} (h : r.isArray) : r.value = .array (r.rows.map value) := by
  obtain ⟨type, rows, strval, intval⟩ := r
  obtain rfl : type = .array := of_decide_eq_true h
  exact congrArg Resp.array (values_eq_map rows)

theorem value_type (r : Reply) : r.value.type = r.type :=
  congrArg Observation.getType r.observe_value

/-- A reply that shows what it shows under the tag of an array is one. -/
theorem isArray_of_value_eq {r : Reply} (h : ({ r with type := .array } : Reply).value = r.value) :
    r.isArray := by
  have htype := congrArg Resp.type h
  rw [value_type, value_type] at htype
  exact decide_eq_true htype.symm

theorem tag_of_isArray {r : Reply} (h : r.isArray) : { r with type := .array } = r := by
  obtain ⟨type, rows, strval, intval⟩ := r
  obtain rfl : type = .array := of_decide_eq_true h
  rfl

theorem append_value_of_not_isArray {r : Reply} (h : ¬ r.isArray) (v : Resp) :
    r.value.append v = .array [v] := by
  obtain ⟨type, rows, strval, intval⟩ := r
  cases type with
  | array => exact absurd rfl h
  | error => rfl
  | bulkString => rfl
  | simpleString => rfl
  | null => rfl
  | integer => rfl

/-- A row is appended as it should be to an array, and to what holds no rows. -/
theorem value_append_iff {r row : Reply} {v : Resp} :
    (r.append row).value = r.value.append v ↔ row.value = v ∧ (r.isArray ∨ r.rows = []) := by
  rw [value_append]
  by_cases h : r.isArray
  · rw [value_of_isArray h, Resp.append, Resp.array.injEq, List.append_cancel_left_eq]
    simp [h]
  · rw [append_value_of_not_isArray h, Resp.array.injEq]
    cases r.rows with
    | nil => simp
    | cons first rows => simp [h]

end Reply

/-! ## Histories -/

/-- A reply that an operation reads: a named one, or a row down a path of one. -/
structure Source (ν : Type) where
  name : ν
  path : List Nat := []
deriving DecidableEq

/-- What a reply is made of or set to; the rows of an array are copies. -/
inductive Content (α : Type)
  | null
  | string (value : Bytes) (type : StringType)
  | integer (value : Int)
  | rows (elements : List α)

/-- An operation on the reply `x`. -/
inductive Operation (ν : Type)
  | construct (x : ν) (content : Content (Source ν))
  | set (x : ν) (content : Content (Source ν))
  | append (x : ν) (row : Source ν)
  | copy (x : ν) (source : Source ν)

/-- The rows are looked up, if they are all there. -/
def Content.traverse {α β : Type} (look : α → Option β) : Content α → Option (Content β)
  | .null => some .null
  | .string value type => some (.string value type)
  | .integer value => some (.integer value)
  | .rows elements => (elements.mapM look).map .rows

def Content.map {α β : Type} (f : α → β) : Content α → Content β
  | .null => .null
  | .string value type => .string value type
  | .integer value => .integer value
  | .rows elements => .rows (elements.map f)

/-- The constructors. -/
def Reply.construct : Content Reply → Reply
  | .null => {}
  | .string value type => .ofString value type
  | .integer value => .ofInteger value
  | .rows rows => .ofRows rows

/-- The overloads of `set`. -/
def Reply.set (r : Reply) : Content Reply → Reply
  | .null => r.setNull
  | .string value type => r.setString value type
  | .integer value => r.setInteger value
  | .rows rows => r.setRows rows

/-- The value that a content stands for. -/
def Resp.of : Content Resp → Resp
  | .null => .null
  | .string value type => .string type value
  | .integer value => .integer value
  | .rows rows => .array rows

section

variable {ν : Type}

def Reply.lookup (env : ν → Reply) (source : Source ν) : Option Reply :=
  (env source.name).row source.path

def Resp.lookup (env : ν → Resp) (source : Source ν) : Option Resp :=
  (env source.name).row source.path

/-- Each reply shows its value. -/
def AllShown (s : (ν → Reply) × (ν → Resp)) : Prop :=
  ∀ x, Shows (s.1 x) (s.2 x)

/-- `operator<<` is applied to an array, or to another reply than its operand that holds no rows. -/
def KeepsShown (s : (ν → Reply) × (ν → Resp)) : Operation ν → Prop
  | .append x row => (s.1 x).isArray ∨ (s.1 x).rows = [] ∧ row.name ≠ x
  | _ => True

variable [DecidableEq ν]

namespace Reply

/-- The tag is set before the operand of `operator<<` is read, which may be the reply itself. -/
def tagged (env : ν → Reply) (x : ν) : ν → Reply :=
  Function.update env x { env x with type := .array }

/-- The named replies. A row is not copied over the array that holds it: what such a copy does is
undefined. -/
def machine : Machine (ν → Reply) (Operation ν) where
  enabled env
    | .construct _ content => (content.traverse (lookup env)).isSome
    | .set _ content => (content.traverse (lookup env)).isSome
    | .append _ row => (lookup env row).isSome
    | .copy x source => (lookup env source).isSome ∧ (source.name = x → source.path = [])
  step env
    | .construct x content =>
      (content.traverse (lookup env)).elim env fun content =>
        Function.update env x (construct content)
    | .set x content =>
      (content.traverse (lookup env)).elim env fun content =>
        Function.update env x ((env x).set content)
    | .append x row =>
      (lookup (tagged env x) row).elim env fun row => Function.update env x ((env x).append row)
    | .copy x source => (lookup env source).elim env fun r => Function.update env x r

end Reply

/-- The same operations on values. -/
def Resp.machine : Machine (ν → Resp) (Operation ν) where
  enabled _ _ := True
  step env
    | .construct x content =>
      (content.traverse (lookup env)).elim env fun content => Function.update env x (of content)
    | .set x content =>
      (content.traverse (lookup env)).elim env fun content => Function.update env x (of content)
    | .append x row =>
      (lookup env row).elim env fun row => Function.update env x ((env x).append row)
    | .copy x source => (lookup env source).elim env fun v => Function.update env x v

/-- The replies and the values, after the same operations. -/
def shownMachine : Machine ((ν → Reply) × (ν → Resp)) (Operation ν) :=
  Reply.machine.beside Resp.machine

/-! ## Steps -/

omit [DecidableEq ν] in
theorem allShown_iff {s : (ν → Reply) × (ν → Resp)} : AllShown s ↔ s.2 = Reply.value ∘ s.1 := by
  constructor
  · exact fun h => funext fun x => (shows_iff.mp (h x)).symm
  · intro h x
    rw [h]
    exact shows_value (s.1 x)

omit [DecidableEq ν] in
theorem lookup_value (env : ν → Reply) (source : Source ν) :
    Resp.lookup (Reply.value ∘ env) source = (Reply.lookup env source).map Reply.value :=
  Reply.row_value _ _

omit [DecidableEq ν] in
theorem traverse_value (env : ν → Reply) (content : Content (Source ν)) :
    content.traverse (Resp.lookup (Reply.value ∘ env)) =
      (content.traverse (Reply.lookup env)).map (Content.map Reply.value) := by
  cases content with
  | rows sources =>
    have hrows : sources.mapM (Resp.lookup (Reply.value ∘ env)) =
        (sources.mapM (Reply.lookup env)).map (List.map Reply.value) := by
      induction sources with
      | nil => rfl
      | cons source sources ih =>
        rw [List.mapM_cons, List.mapM_cons, lookup_value, ih]
        cases Reply.lookup env source with
        | none => rfl
        | some row =>
          cases sources.mapM (Reply.lookup env) with
          | none => rfl
          | some rows => rfl
    rw [Content.traverse, Content.traverse, hrows, Option.map_map, Option.map_map]
    rfl
  | null => rfl
  | string value type => rfl
  | integer value => rfl

theorem value_construct (content : Content Reply) :
    (Reply.construct content).value = .of (content.map Reply.value) := by
  cases content with
  | null => rfl
  | string value type => exact Reply.value_setString {} value type
  | integer value => rfl
  | rows rows => exact Reply.value_setRows {} rows

theorem value_set (r : Reply) (content : Content Reply) :
    (r.set content).value = .of (content.map Reply.value) := by
  cases content with
  | null => exact r.value_setNull
  | string value type => exact r.value_setString value type
  | integer value => exact r.value_setInteger value
  | rows rows => exact r.value_setRows rows

/-- A reply and its value, replaced by another reply and another value. -/
theorem allShown_update_iff {env : ν → Reply} {x : ν} {r : Reply} {v : Resp} :
    AllShown (Function.update env x r, Function.update (Reply.value ∘ env) x v) ↔ r.value = v := by
  rw [allShown_iff, Function.comp_update]
  constructor
  · intro h
    have hx : Function.update (Reply.value ∘ env) x v x =
        Function.update (Reply.value ∘ env) x r.value x := congrFun h x
    rw [Function.update_self, Function.update_self] at hx
    exact hx.symm
  · rintro rfl
    rfl

theorem tagged_of_isArray {env : ν → Reply} {x : ν} (h : (env x).isArray) :
    Reply.tagged env x = env := by
  rw [Reply.tagged, Reply.tag_of_isArray h, Function.update_eq_self]

/-- The operand of `operator<<` is read as it was, unless it is the reply itself. -/
theorem lookup_tagged {env : ν → Reply} {x : ν} {row : Source ν}
    (hx : (env x).isArray ∨ row.name ≠ x) :
    Reply.lookup (Reply.tagged env x) row = Reply.lookup env row := by
  rcases hx with harray | hname
  · rw [tagged_of_isArray harray]
  · rw [Reply.lookup, Reply.lookup, Reply.tagged, Function.update_of_ne hname]

/-- A reply that is no array has no rows to be read; with the tag of one, it is an array. -/
theorem lookup_tagged_self {env : ν → Reply} {row : Source ν} {r : Reply}
    (hr : Reply.lookup env row = some r) (h : ¬ (env row.name).isArray) :
    r = env row.name ∧
      Reply.lookup (Reply.tagged env row.name) row = some { r with type := .array } := by
  unfold Reply.lookup at *
  cases hpath : row.path with
  | nil =>
    rw [hpath] at hr
    obtain rfl := Option.some.inj hr
    exact ⟨rfl, congrArg some (Function.update_self ..)⟩
  | cons i path =>
    have hthrows : (env row.name).asArray = .error (.redisError "Reply is not an array") := if_neg h
    rw [hpath, Reply.row, hthrows] at hr
    cases hr

/-- After `operator<<` a reply shows what its value has become, if and only if the step keeps to
the condition. -/
theorem append_shown_iff {env : ν → Reply} {x : ν} {row : Source ν}
    (h : (Reply.lookup env row).isSome) :
    AllShown (shownMachine.step (env, Reply.value ∘ env) (.append x row)) ↔
      KeepsShown (env, Reply.value ∘ env) (.append x row) := by
  obtain ⟨r, hr⟩ := Option.isSome_iff_exists.mp h
  have hv : Resp.lookup (Reply.value ∘ env) row = some r.value := by
    rw [lookup_value, hr, Option.map_some]
  have hstep : ∀ r', Reply.lookup (Reply.tagged env x) row = some r' →
      shownMachine.step (env, Reply.value ∘ env) (.append x row) =
        (Function.update env x ((env x).append r'),
          Function.update (Reply.value ∘ env) x ((env x).value.append r.value)) := by
    intro r' hr'
    simp only [shownMachine, Machine.beside, Reply.machine, Resp.machine, hr', hv,
      Option.elim_some, Function.comp_apply]
  by_cases hx : (env x).isArray ∨ row.name ≠ x
  · rw [hstep r ((lookup_tagged hx).trans hr), allShown_update_iff, Reply.value_append_iff,
      KeepsShown]
    constructor
    · rintro ⟨-, harray | hrows⟩
      · exact .inl harray
      · exact hx.imp id fun hname => ⟨hrows, hname⟩
    · rintro (harray | ⟨hrows, -⟩)
      · exact ⟨rfl, .inl harray⟩
      · exact ⟨rfl, .inr hrows⟩
  · obtain ⟨harray, hname⟩ := not_or.mp hx
    obtain rfl := not_not.mp hname
    obtain ⟨rfl, htagged⟩ := lookup_tagged_self hr harray
    rw [hstep _ htagged, allShown_update_iff, Reply.value_append_iff, KeepsShown]
    constructor
    · rintro ⟨hsame, -⟩
      exact absurd (Reply.isArray_of_value_eq hsame) harray
    · rintro (h' | ⟨-, h'⟩)
      · exact absurd h' harray
      · exact absurd rfl h'

/-- Every other operation leaves replies that show what their values are. -/
theorem construct_shown {env : ν → Reply} {x : ν} {content : Content (Source ν)}
    (h : (content.traverse (Reply.lookup env)).isSome) :
    AllShown (shownMachine.step (env, Reply.value ∘ env) (.construct x content)) := by
  obtain ⟨c, hc⟩ := Option.isSome_iff_exists.mp h
  have hv := traverse_value env content
  rw [hc, Option.map_some] at hv
  simp only [shownMachine, Machine.beside, Reply.machine, Resp.machine, hc, hv, Option.elim_some]
  exact allShown_update_iff.mpr (value_construct c)

theorem set_shown {env : ν → Reply} {x : ν} {content : Content (Source ν)}
    (h : (content.traverse (Reply.lookup env)).isSome) :
    AllShown (shownMachine.step (env, Reply.value ∘ env) (.set x content)) := by
  obtain ⟨c, hc⟩ := Option.isSome_iff_exists.mp h
  have hv := traverse_value env content
  rw [hc, Option.map_some] at hv
  simp only [shownMachine, Machine.beside, Reply.machine, Resp.machine, hc, hv, Option.elim_some]
  exact allShown_update_iff.mpr (value_set (env x) c)

theorem copy_shown {env : ν → Reply} {x : ν} {source : Source ν}
    (h : (Reply.lookup env source).isSome) :
    AllShown (shownMachine.step (env, Reply.value ∘ env) (.copy x source)) := by
  obtain ⟨r, hr⟩ := Option.isSome_iff_exists.mp h
  have hv := lookup_value env source
  rw [hr, Option.map_some] at hv
  simp only [shownMachine, Machine.beside, Reply.machine, Resp.machine, hr, hv, Option.elim_some]
  exact allShown_update_iff.mpr rfl

theorem step_shown_iff (s : (ν → Reply) × (ν → Resp)) (e : Operation ν) (hs : AllShown s)
    (he : shownMachine.enabled s e) : AllShown (shownMachine.step s e) ↔ KeepsShown s e := by
  obtain ⟨env, values⟩ := s
  obtain rfl : values = Reply.value ∘ env := allShown_iff.mp hs
  cases e with
  | construct x content => exact iff_of_true (construct_shown he) trivial
  | set x content => exact iff_of_true (set_shown he) trivial
  | append x row => exact append_shown_iff he
  | copy x source => exact iff_of_true (copy_shown he.1) trivial

/-! ## Runs -/

/-- In every run from default-constructed replies, each reply shows its value throughout, if and
only if `operator<<` keeps to the condition throughout. -/
theorem always_shown_iff (operations : List (Operation ν))
    (h : shownMachine.Possible (fun _ => {}, fun _ => .null) operations) :
    shownMachine.Always AllShown (fun _ => {}, fun _ => .null) operations ↔
      shownMachine.Along KeepsShown (fun _ => {}, fun _ => .null) operations :=
  Machine.always_iff_along (K := fun _ => True) (fun _ _ _ _ => trivial)
    (fun s e _ hs he => step_shown_iff s e hs he) h trivial (allShown_iff.mpr rfl)

end

/-- An array of one row is appended to itself, its second row is copied, and it is set to null. -/
def nestedHistory : List (Operation Nat) :=
  [.construct 0 (.rows [⟨1, []⟩]), .append 0 ⟨0, []⟩, .copy 1 ⟨0, [1]⟩, .set 0 .null]

theorem always_shown_nested :
    shownMachine.Always AllShown (fun _ => {}, fun _ => .null) nestedHistory :=
  (always_shown_iff nestedHistory ⟨rfl, rfl, ⟨rfl, fun h => nomatch h⟩, rfl, trivial⟩).mpr
    ⟨trivial, .inl rfl, trivial, trivial, trivial⟩

/-- An array of one row, set to null, and another row. -/
def staleHistory : List (Operation Nat) :=
  [.set 0 (.rows [⟨1, []⟩]), .set 0 .null, .append 0 ⟨1, []⟩]

/-- A row of a value that `set()` has superseded comes back with the next row. -/
theorem not_always_shown :
    shownMachine.Possible (fun _ => {}, fun _ => .null) staleHistory ∧
      ¬ shownMachine.Always AllShown (fun _ => {}, fun _ => .null) staleHistory := by
  refine ⟨⟨rfl, rfl, rfl, trivial⟩, ?_⟩
  rintro ⟨-, -, -, hlast⟩
  have hcount := congrArg Observation.rowCount (Option.some.inj (hlast 0 []))
  cases hcount

end CppRedis
