/-!
# Options read from left to right

A reader of the options that follow the name of a command. A word that starts an option says how
many words belong to it, and each option changes a record of what has been read.

* `read`: the record that a list of words leaves, if they are options.
* `Reads`: some words lead from one record to another, whatever follows them. It is put together
  as the words are: `Reads.append`, `Reads.switch`, `Reads.optional`, `Reads.flatMap`,
  `Reads.fixed`.
* `Reads.read_eq`: what is written option by option is read back as a whole.
* `Reading.ensures_read`: what every option keeps holds of whatever is read.
-/

namespace Options

variable {ω ρ : Type}

/-- Where a reader stands: between two options, or inside of one that waits for its next word. -/
inductive Reading (ω ρ : Type)
  | between (record : ρ)
  | inside (next : ω → Option (Reading ω ρ))

/-- The options of a list of words, under a table of what each word starts. -/
def read (table : ω → ρ → Option (Reading ω ρ)) : Reading ω ρ → List ω → Option ρ
  | .between record, [] => some record
  | .inside _, [] => none
  | .between record, word :: words =>
    (table word record).bind fun reading => read table reading words
  | .inside next, word :: words => (next word).bind fun reading => read table reading words

/-- The arguments of an option of which it is known how many there are, after those that were
read. -/
def counted {α : Type} (take : ω → Option α) (finish : List α → ρ) : Nat → List α → Reading ω ρ
  | 0, xs => .between (finish xs)
  | n + 1, xs => .inside fun word => (take word).map fun x => counted take finish n (xs ++ [x])

/-- The words are options that lead from one record to another. -/
def Reads (table : ω → ρ → Option (Reading ω ρ)) (words : List ω) (record record' : ρ) : Prop :=
  ∀ rest, read table (.between record) (words ++ rest) = read table (.between record') rest

section

variable {table : ω → ρ → Option (Reading ω ρ)} {words words' : List ω}
  {record record' record'' : ρ}

namespace Reads

theorem nil : Reads table [] record record :=
  fun _ => rfl

theorem append (h : Reads table words record record') (h' : Reads table words' record' record'') :
    Reads table (words ++ words') record record'' := by
  intro rest
  rw [List.append_assoc, h, h']

/-- An option of one word. -/
theorem flag {word : ω} (h : table word record = some (.between record')) :
    Reads table [word] record record' := by
  intro rest
  rw [List.cons_append, List.nil_append, read, h, Option.bind_some]

/-- An option with an argument. -/
theorem argument {word a : ω} {next : ω → Option (Reading ω ρ)}
    (h : table word record = some (.inside next)) (ha : next a = some (.between record')) :
    Reads table [word, a] record record' := by
  intro rest
  rw [List.cons_append, List.cons_append, List.nil_append, read, h, Option.bind_some, read, ha,
    Option.bind_some]

/-- An option with two arguments. -/
theorem arguments {word a b : ω} {next next' : ω → Option (Reading ω ρ)}
    (h : table word record = some (.inside next)) (ha : next a = some (.inside next'))
    (hb : next' b = some (.between record')) : Reads table [word, a, b] record record' := by
  intro rest
  rw [List.cons_append, List.cons_append, List.cons_append, List.nil_append, read, h,
    Option.bind_some, read, ha, Option.bind_some, read, hb, Option.bind_some]

/-- An option that is written under a condition. -/
theorem ite {p : Prop} [Decidable p] (h : p → Reads table words record record')
    (h' : ¬ p → record' = record) :
    Reads table (if p then words else []) record record' := by
  by_cases hp : p
  · rw [if_pos hp]
    exact h hp
  · rw [if_neg hp, h' hp]
    exact nil

/-- A flag that is written under a condition. -/
theorem switch {word : ω} (b : Bool) (set : Bool → ρ)
    (h : table word record = some (.between (set true))) (h' : set false = record) :
    Reads table (if b then [word] else []) record (set b) := by
  refine ite (fun hb => ?_) (fun hb => ?_)
  · rw [hb]
    exact flag h
  · rw [Bool.not_eq_true] at hb
    rw [hb, h']

/-- An option with an argument that is written under a condition. -/
theorem optional {α : Type} {word a : ω} {v : α} {p : Prop} [Decidable p]
    {next : ω → Option (Reading ω ρ)} (set : Option α → ρ)
    (h : table word record = some (.inside next)) (ha : next a = some (.between (set (some v))))
    (h' : set none = record) :
    Reads table (if p then [word, a] else []) record (set (if p then some v else none)) := by
  refine ite (fun hp => ?_) (fun hp => ?_)
  · rw [if_pos hp]
    exact argument h ha
  · rw [if_neg hp, h']

/-- Options that are written one after the other, for the elements of a list. -/
theorem flatMap {α : Type} {write : α → List ω} {take : ρ → α → ρ} (xs : List α)
    (h : ∀ x record, Reads table (write x) record (take record x)) (record : ρ) :
    Reads table (xs.flatMap write) record (xs.foldl take record) := by
  induction xs generalizing record with
  | nil => exact nil
  | cons x xs ih =>
    rw [List.flatMap_cons, List.foldl_cons]
    exact (h x record).append (ih (take record x))

/-- An option with as many arguments as a list has elements. By induction on the list, after the
arguments that were read. -/
theorem fixed {α : Type} {take : ω → Option α} {finish : List α → ρ} {write : α → ω} {word : ω}
    {xs : List α} (h : table word record = some (counted take finish xs.length []))
    (hx : ∀ x ∈ xs, take (write x) = some x) :
    Reads table (word :: xs.map write) record (finish xs) := by
  have hread (taken : List α) (rest : List ω) :
      read table (counted take finish xs.length taken) (xs.map write ++ rest) =
        read table (.between (finish (taken ++ xs))) rest := by
    clear h
    induction xs generalizing taken with
    | nil =>
      rw [List.append_nil]
      rfl
    | cons x xs ih =>
      obtain ⟨hfirst, hrest⟩ := List.forall_mem_cons.mp hx
      rw [List.map_cons, List.cons_append, List.length_cons, counted, read, hfirst,
        Option.map_some, Option.bind_some, ih hrest, List.append_assoc, List.singleton_append]
  intro rest
  rw [List.cons_append, read, h, Option.bind_some, hread [] rest, List.nil_append]

/-- Words that are options and nothing else are read to their end. -/
theorem read_eq (h : Reads table words record record') :
    read table (.between record) words = some record' := by
  have hall := h []
  rwa [List.append_nil] at hall

end Reads

namespace Reading

/-- Whatever record the reader comes to next, `I` holds of it. -/
inductive Ensures (I : ρ → Prop) : Reading ω ρ → Prop
  | between {record : ρ} (h : I record) : Ensures I (.between record)
  | inside {next : ω → Option (Reading ω ρ)}
      (h : ∀ word reading, next word = some reading → Ensures I reading) : Ensures I (.inside next)

/-- What every option keeps holds of whatever is read. By induction on the words. -/
theorem ensures_read {I : ρ → Prop}
    (htable : ∀ word record reading, I record → table word record = some reading →
      Ensures I reading) {reading : Reading ω ρ} (h : Ensures I reading) {words : List ω}
    {record : ρ} (hread : read table reading words = some record) : I record := by
  induction words generalizing reading with
  | nil =>
    cases h with
    | between h =>
      cases hread
      exact h
    | inside h => cases hread
  | cons word words ih =>
    cases h with
    | between h =>
      obtain ⟨reading, hreading, hrest⟩ := Option.bind_eq_some_iff.mp hread
      exact ih (htable word _ reading h hreading) hrest
    | inside h =>
      obtain ⟨reading, hreading, hrest⟩ := Option.bind_eq_some_iff.mp hread
      exact ih (h word reading hreading) hrest

theorem ensures_counted {α : Type} {I : ρ → Prop} {take : ω → Option α} {finish : List α → ρ}
    {n m : Nat} (h : ∀ xs : List α, xs.length = n → I (finish xs)) {xs : List α}
    (hxs : xs.length + m = n) : Ensures I (counted take finish m xs : Reading ω ρ) := by
  induction m generalizing xs with
  | zero => exact .between (h xs hxs)
  | succ m ih =>
    refine .inside fun word reading hreading => ?_
    obtain ⟨x, -, rfl⟩ := Option.map_eq_some_iff.mp hreading
    refine ih ?_
    rw [List.length_append, List.length_singleton]
    omega

end Reading

end

end Options
