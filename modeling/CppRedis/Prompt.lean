import CppRedis.Recognition

/-!
# When a reply becomes available

A `reply_builder` whose owner takes replies while others are being read. Whichever replies are
taken in between, those that were made available are all that the bytes read so far hold: none
comes before its last byte, and none has to wait for more.

* `chunks`, `popped`: what a history of calls feeds, and what it takes.
* `prompt`: for any bytes, as long as no call faults.
* `timely`: for a stream of well-formed values, of which no call faults.
-/

namespace CppRedis

open Text Consumer

/-! ## Values -/

theorem Numeral.decimalInt (v : Int) : Numeral (decimalInt v) v := by
  unfold Text.decimalInt
  split
  · next hv =>
    have hneg := Numeral.negative (all_isDigit_decimal v.natAbs)
    rw [decimalValue_decimal, Int.ofNat_natAbs_of_nonpos (Int.le_of_lt hv), Int.neg_neg] at hneg
    exact hneg
  · next hv =>
    have hpos := Numeral.positive (all_isDigit_decimal v.natAbs)
    rw [decimalValue_decimal, Int.natAbs_of_nonneg (Int.not_lt.mp hv)] at hpos
    exact hpos

mutual

/-- The encoding of a value is a reply of the grammar, and it is accepted. -/
theorem Value.accepts : ∀ {v : Value}, v.WellFormed → Accepts v.encode v.toReply
  | .simpleString _, h => .simpleString h
  | .error _, h => .error h
  | .integer v, h => by
    obtain ⟨hlow, hhigh⟩ : -2 ^ 63 < v ∧ v < 2 ^ 63 := h
    exact .integer (.decimalInt v) (by omega)
  | .bulkString s, h => by
    have hlength : s.length < 2 ^ 31 - 2 := h
    exact .bulkString (.decimalInt s.length) (by omega) (narrow_of_lt rfl (by omega)).1 (by omega)
  | .nullBulk, _ => .nullBulk (.decimalInt (-1)) (by decide) (by decide)
  | .nullArray, _ => .nullArray (.decimalInt (-1)) (by decide) (by decide)
  | .array rows, h => by
    have hnumeral := Numeral.decimalInt rows.length
    have hlength : rows.length < 2 ^ 63 := h.1
    rw [← List.length_map Value.toReply] at hnumeral hlength
    have harray := Accepts.array hnumeral hlength (Value.accepts_all h.2)
    rw [List.length_map, ← encodeAll_eq_flatten] at harray
    rw [encode, toReply, toReplies_eq_map]
    exact harray

theorem Value.accepts_all : ∀ {rows : List Value}, Value.AllWellFormed rows →
    AcceptsAll (rows.map Value.encode) (rows.map Value.toReply)
  | [], _ => .nil
  | _ :: _, h => .cons (Value.accepts h.1) (Value.accepts_all h.2)

end

mutual

/-- What is accepted is a reply of the grammar. -/
theorem Accepts.reads : ∀ {p : Bytes} {r : Reply}, Accepts p r → ∃ hs, Reads p r hs
  | _, _, .simpleString hs => ⟨_, .simpleString hs⟩
  | _, _, .error hs => ⟨_, .error hs⟩
  | _, _, .integer hs _ => ⟨_, .integer hs⟩
  | _, _, .nullBulk hs _ hnull => ⟨_, .nullBulk hs hnull⟩
  | _, _, .bulkString hs _ hsize _ => ⟨_, .bulkString hs hsize⟩
  | _, _, .nullArray hs _ hnull => ⟨_, .nullArray hs hnull⟩
  | _, _, .array hs _ hrows =>
    have ⟨_, hreads⟩ := hrows.reads
    ⟨_, .array hs hreads⟩

theorem AcceptsAll.reads : ∀ {ps : List Bytes} {rs : List Reply}, AcceptsAll ps rs →
    ∃ hs, ReadsAll ps rs hs
  | _, _, .nil => ⟨_, .nil⟩
  | _, _, .cons hrow hrows =>
    have ⟨_, hread⟩ := hrow.reads
    have ⟨_, hreads⟩ := hrows.reads
    ⟨_, .cons hread hreads⟩

end

theorem Value.encodeAll_split {values : List Value} {k : Nat} {v : Value} (h : values[k]? = some v) :
    encodeAll values =
      encodeAll (values.take k) ++ (v.encode ++ encodeAll (values.drop (k + 1))) := by
  obtain ⟨hk, rfl⟩ := List.getElem?_eq_some_iff.mp h
  have hsplit : values = values.take k ++ values[k] :: values.drop (k + 1) := by
    rw [List.getElem_cons_drop, List.take_append_drop]
  conv_lhs => rw [hsplit, encodeAll_eq_flatten, List.map_append, List.flatten_append,
    List.map_cons, List.flatten_cons]
  rw [encodeAll_eq_flatten, encodeAll_eq_flatten]

/-- The replies at the front of a stream of values are those of the first values. -/
theorem AcceptsAll.first_values {ps : List Bytes} {rs : List Reply} (h : AcceptsAll ps rs)
    {values : List Value} (hvalues : ∀ v ∈ values, v.WellFormed) {t : Bytes}
    (heq : ps.flatten ++ t = Value.encodeAll values) :
    ps.flatten = Value.encodeAll (values.take rs.length) ∧
      rs = (values.take rs.length).map Value.toReply := by
  induction ps generalizing rs values with
  | nil =>
    cases h
    exact ⟨rfl, rfl⟩
  | cons p ps ih =>
    cases h with
    | cons hrow hrows =>
      obtain ⟨hs, hread⟩ := hrow.reads
      rw [List.flatten_cons, List.append_assoc] at heq
      cases values with
      | nil => exact absurd (List.append_eq_nil_iff.mp heq).1 hread.ne_nil
      | cons v values =>
        obtain ⟨hv, hrest⟩ := List.forall_mem_cons.mp hvalues
        obtain ⟨hs', hread'⟩ := (Value.accepts hv).reads
        rw [Value.encodeAll] at heq
        obtain ⟨rfl, rfl, -⟩ := hread.unique hread' heq
        obtain ⟨hflatten, htake⟩ := ih hrows hrest (List.append_cancel_left heq)
        rw [List.flatten_cons, List.length_cons, List.take_succ_cons, Value.encodeAll, hflatten,
          List.map_cons, ← htake]
        exact ⟨rfl, rfl⟩

namespace ReplyBuilder

/-! ## Replies taken in between -/

/-- The chunks that a history of calls feeds. -/
def chunks : List Call → List Bytes
  | [] => []
  | .feed data :: calls => data :: chunks calls
  | .popFront :: calls => chunks calls

/-- The reply that `get_front` shows before it is popped, if there is one. -/
def Call.taken (s : ReplyBuilder) : Call → List Reply
  | .feed _ => []
  | .popFront => s.getFront.toOption.toList

/-- The replies that a history of calls takes, in order. -/
def popped : ReplyBuilder → List Call → List Reply
  | _, [] => []
  | s, c :: calls => c.taken s ++ popped (s.call c) calls

/-- No call of `operator<<` faults. -/
def Faultless : ReplyBuilder → List Call → Prop
  | _, [] => True
  | s, .feed data :: calls => (s.feed data).2 = .ok () ∧ Faultless (s.feed data).1 calls
  | s, .popFront :: calls => Faultless s.popFront.1 calls

/-- Replies that are taken are missing at the front, and nothing else changes. -/
theorem popFront_eq (s : ReplyBuilder) :
    s = s.popFront.1.prepend (Call.popFront.taken s) := by
  obtain ⟨⟨builder, _ | ⟨r, rs⟩⟩, buffer⟩ := s <;> rfl

theorem prepend_prepend (s : ReplyBuilder) (front back : List Reply) :
    (s.prepend back).prepend front = s.prepend (front ++ back) :=
  congrArg (fun rs => ReplyBuilder.mk ⟨s.builder, rs⟩ s.buffer) (List.append_assoc _ _ _).symm

theorem faultless_iff (s : ReplyBuilder) (calls : List Call) :
    Faultless s calls ↔ (s.feedAll (chunks calls)).2 = .ok () := by
  induction calls generalizing s with
  | nil => exact iff_of_true trivial rfl
  | cons c calls ih =>
    cases c with
    | feed data =>
      rw [Faultless, ih, chunks, feedAll]
      rcases s.feed data with ⟨s', e | ⟨⟩⟩
      · refine iff_of_false ?_ ?_
        · rintro ⟨h, -⟩
          cases h
        · intro h
          cases h
      · exact ⟨fun h => h.2, fun h => ⟨rfl, h⟩⟩
    | popFront =>
      rw [Faultless, ih, chunks]
      conv_rhs => rw [popFront_eq s]
      rw [feedAll_prepend]

/-- The replies taken, in front of those that are left, are those of the chunks alone. -/
theorem foldl_call_popped {s : ReplyBuilder} {calls : List Call} (h : Faultless s calls) :
    (calls.foldl call s).prepend (popped s calls) =
      (s.feedAll (chunks calls)).1 := by
  induction calls generalizing s with
  | nil => rfl
  | cons c calls ih =>
    cases c with
    | feed data =>
      obtain ⟨hdata, hrest⟩ := h
      rw [chunks, feedAll, List.foldl_cons, popped]
      rcases hfeed : s.feed data with ⟨s', o⟩
      rw [hfeed] at hdata hrest
      cases hdata
      simp only [call, hfeed, Call.taken, List.nil_append]
      exact ih hrest
    | popFront =>
      rw [chunks, List.foldl_cons, popped, ← prepend_prepend]
      conv_rhs => rw [popFront_eq s]
      rw [feedAll_prepend, ← ih h]
      rfl

/-- A history without faults is one call with all of its bytes, but for the replies taken. -/
theorem feed_history {calls : List Call} (h : Faultless {} calls) :
    feed {} (chunks calls).flatten = ((after calls).prepend (popped {} calls), .ok ()) :=
  feedAll_ok settled_new (Prod.ext (foldl_call_popped h).symm ((faultless_iff {} calls).mp h))

/-- Whenever no call has faulted: the replies that were taken and those that are left are all
that the bytes read so far hold. What is left of the bytes does not begin with a reply. -/
theorem prompt {calls : List Call} (h : Faultless {} calls) :
    ∃ ps q, (chunks calls).flatten = ps.flatten ++ q ∧
      AcceptsAll ps (popped {} calls ++ (after calls).availableReplies) ∧
      ∀ p r hs t, q = p ++ t → ¬ Reads p r hs := by
  obtain ⟨ps, q, hx, haccepts, -, hleft⟩ := feed_accepted (feed_history h)
  exact ⟨ps, q, hx, haccepts, hleft⟩

/-- A reply that is taken while the next one is cut inside of its header. -/
theorem prompt_cut :
    let calls := [Call.feed (ascii "+OK\r\n$"), .popFront, .feed (ascii "1\r\nx\r\n*2\r")]
    ∃ ps q, (chunks calls).flatten = ps.flatten ++ q ∧
      AcceptsAll ps (popped {} calls ++ (after calls).availableReplies) ∧
      ∀ p r hs t, q = p ++ t → ¬ Reads p r hs :=
  prompt ⟨rfl, rfl, trivial⟩

/-- At any moment of a stream of well-formed values, cut anywhere: no call has faulted, and the
replies that were taken and those that are left are those of the values that have arrived as a
whole. -/
theorem timely {values : List Value} (hvalues : ∀ v ∈ values, v.WellFormed) {calls : List Call}
    {t : Bytes} (h : (chunks calls).flatten ++ t = Value.encodeAll values) :
    Faultless {} calls ∧ ∃ k q, (chunks calls).flatten = Value.encodeAll (values.take k) ++ q ∧
      popped {} calls ++ (after calls).availableReplies = (values.take k).map Value.toReply ∧
      ∀ v ∈ values[k]?, q.length < v.encode.length := by
  have hfaultless : Faultless {} calls := by
    rw [faultless_iff, (feedAll_flatten settled_new (chunks calls)).2.1]
    rcases hfeed : feed {} (chunks calls).flatten with ⟨b, e | ⟨⟩⟩
    · have hall := feed_append_error hfeed t
      rw [h, feed_encodeAll ⟨rfl, rfl⟩ hvalues] at hall
      exact absurd (congrArg Prod.snd hall) nofun
    · rfl
  refine ⟨hfaultless, ?_⟩
  obtain ⟨ps, q, hx, haccepts, -, hleft⟩ := feed_accepted (feed_history hfaultless)
  rw [hx, List.append_assoc] at h
  obtain ⟨hflatten, hreplies⟩ := haccepts.first_values hvalues h
  refine ⟨_, q, by rw [hx, hflatten], hreplies, ?_⟩
  intro v hv
  refine Nat.lt_of_not_le fun hle => ?_
  -- the next value would be there as a whole
  obtain ⟨rest, hnext⟩ : ∃ rest, q ++ t = v.encode ++ rest := by
    rw [hflatten] at h
    exact ⟨_, List.append_cancel_left (h.trans (Value.encodeAll_split hv))⟩
  obtain ⟨hs, hread⟩ := (Value.accepts (hvalues v (List.mem_of_getElem? hv))).reads
  obtain ⟨t', ht'⟩ := List.prefix_of_prefix_length_le ⟨_, hnext.symm⟩ (List.prefix_append q t) hle
  exact hleft _ _ hs t' ht'.symm hread

/-- An array whose second row is cut inside of its payload, behind a reply that is taken. -/
theorem timely_cut :
    let values := [Value.integer 7, .array [.nullBulk, .bulkString (ascii "a\r\nb")]]
    let calls := [Call.feed (ascii ":7\r\n*2\r\n$-1\r\n"), .popFront, .feed (ascii "$4\r\na\r\n")]
    Faultless {} calls ∧ ∃ k q, (chunks calls).flatten = Value.encodeAll (values.take k) ++ q ∧
      popped {} calls ++ (after calls).availableReplies = (values.take k).map Value.toReply ∧
      ∀ v ∈ values[k]?, q.length < v.encode.length := by
  intro values calls
  have hvalues : ∀ v ∈ values, v.WellFormed := by
    simp [values, Value.WellFormed, Value.AllWellFormed, ascii]
  exact timely hvalues (t := ascii "b\r\n") (by decide)

end ReplyBuilder

end CppRedis
