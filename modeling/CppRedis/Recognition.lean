import CppRedis.Lengths
import CppRedis.Reset

/-!
# Completeness of the parser

`Soundness` says that what is read is what the grammar derives; here what the grammar derives is
read, unless one of its numbers leaves its type.

* `Accepts p r`: the bytes `p` are one reply, namely `r`, and none of the numbers on the way
  overflows. A reply of the grammar is accepted, or the code faults on it
  (`Reads.accepts_or_faults`).
* `feedAll_accepts_iff`: the streams that are read to their end are those that are made of
  accepted replies.
* `feed_accepted`: what a builder leaves in its buffer does not begin with a reply.
-/

namespace CppRedis

open Text Consumer

open Value (line)

/-! ## The replies that can be read -/

mutual

/-- The bytes of one reply, none of whose numbers leaves its type: a number is one of 64 bits on
the way to its sign, and the end of a bulk string is an `int`. -/
inductive Accepts : Bytes → Reply → Prop
  | simpleString {s : Bytes} (hs : NoCrlf s) : Accepts (line 43 s) (.ofString s .simpleString)
  | error {s : Bytes} (hs : NoCrlf s) : Accepts (line 45 s) (.ofString s .error)
  | integer {s : Bytes} {n : Int} (hs : Numeral s n) (hn : n.natAbs < 2 ^ 63) :
      Accepts (line 58 s) (.ofInteger n)
  | nullBulk {s : Bytes} {n : Int} (hs : Numeral s n) (hn : n.natAbs < 2 ^ 63)
      (hnull : Int32.ofInt n = -1) : Accepts (line 36 s) {}
  | bulkString {s payload : Bytes} {n : Int} (hs : Numeral s n) (hn : n.natAbs < 2 ^ 63)
      (hsize : (Int32.ofInt n).toInt = payload.length) (hlength : payload.length ≤ 2 ^ 31 - 3) :
      Accepts (line 36 s ++ payload ++ crlf) (.ofString payload .bulkString)
  | nullArray {s : Bytes} {n : Int} (hs : Numeral s n) (hn : n.natAbs < 2 ^ 63) (hnull : n < 0) :
      Accepts (line 42 s) {}
  | array {s : Bytes} {ps : List Bytes} {rs : List Reply} (hs : Numeral s rs.length)
      (hlength : rs.length < 2 ^ 63) (hrows : AcceptsAll ps rs) :
      Accepts (line 42 s ++ ps.flatten) (.ofRows rs)

/-- The same for some replies, one after the other. -/
inductive AcceptsAll : List Bytes → List Reply → Prop
  | nil : AcceptsAll [] []
  | cons {p : Bytes} {r : Reply} {ps : List Bytes} {rs : List Reply} (hrow : Accepts p r)
      (hrows : AcceptsAll ps rs) : AcceptsAll (p :: ps) (r :: rs)

end

/-- The builder chosen by the first byte of `code` throws, or overflows, on the other bytes. -/
def Faults (code : Bytes) : Prop :=
  ∃ id body b₀ e, code = id :: body ∧ createBuilder id = .ok b₀ ∧ (b₀.feed body).result = .error e

/-- A fault comes whatever follows the bytes. -/
theorem Builder.feed_faults {body : Bytes} {b₀ : Builder} {e : Fault}
    (h : (b₀.feed body).result = .error e) (rest : Bytes) : (b₀.feed (body ++ rest)).result = .error e := by
  rcases hfeed : b₀.feed body with ⟨b, r, o⟩
  rw [hfeed] at h
  cases h
  rw [(Builder.resumable b₀).throw hfeed rest]

/-! ## Numbers -/

theorem Numeral.unsigned {s : Bytes} {n : Int} (h : Numeral s n) :
    (unsigned s).all isDigit = true ∧ n = sign s * decimalValue (Text.unsigned s) := by
  cases h with
  | negative hdigits => exact ⟨hdigits, (neg_one_mul _).symm⟩
  | positive hdigits =>
    cases s with
    | nil => exact ⟨rfl, rfl⟩
    | cons c s =>
      have hc : c ≠ 45 := by
        rintro rfl
        exact absurd (List.all_eq_true.mp hdigits 45 List.mem_cons_self) (by decide)
      have hsign : sign (c :: s) = 1 := if_neg fun h => hc (Option.some.inj h)
      rw [Text.unsigned, if_neg hc, hsign, one_mul]
      exact ⟨hdigits, rfl⟩

theorem Numeral.fits_iff {s : Bytes} {n : Int} (h : Numeral s n) :
    IntegerBuilder.Fits s ↔ n.natAbs < 2 ^ 63 := by
  obtain ⟨hall, rfl⟩ := h.unsigned
  rw [IntegerBuilder.fits_iff_of_all hall, Int.natAbs_mul]
  unfold sign
  split <;> simp

namespace IntegerBuilder

variable {s : Bytes} {n : Int}

theorem feed_numeral (h : Numeral s n) (hn : n.natAbs < 2 ^ 63) :
    ∃ i : IntegerBuilder, i.replyReady = true ∧ i.getInteger = n ∧ i.reply = .ofInteger n ∧
      ∀ rest, feed {} (s ++ crlf ++ rest) = ⟨i, rest, .ok ()⟩ := by
  obtain ⟨hall, rfl⟩ := h.unsigned
  exact feed_number h.noCrlf (h.fits_iff.mpr hn) hall

theorem feed_tooGreat (h : Numeral s n) (hn : ¬ n.natAbs < 2 ^ 63) (rest : Bytes) :
    ∃ i, feed {} (s ++ crlf ++ rest) = ⟨i, s ++ crlf ++ rest, .error .signedOverflow⟩ := by
  obtain ⟨i, hscan⟩ := scan_not_fits fun hfits => hn (h.fits_iff.mp hfits)
  exact ⟨i, feed_error h.noCrlf rest hscan⟩

end IntegerBuilder

section Header

variable {τ : Type} {s : Bytes} {n : Int}

theorem fetchHeader_numeral (store known : IntegerBuilder → τ) (h : Numeral s n)
    (hn : n.natAbs < 2 ^ 63) :
    ∃ i : IntegerBuilder, i.replyReady = true ∧ i.getInteger = n ∧
      ∀ rest, fetchHeader {} store known (s ++ crlf ++ rest) = ⟨known i, rest, .ok true⟩ := by
  obtain ⟨i, hready, hvalue, -, hfeed⟩ := IntegerBuilder.feed_numeral h hn
  refine ⟨i, hready, hvalue, fun rest => ?_⟩
  simp only [fetchHeader, hfeed, hready, Bool.true_eq_false, if_false]

theorem fetchHeader_tooGreat (store known : IntegerBuilder → τ) (h : Numeral s n)
    (hn : ¬ n.natAbs < 2 ^ 63) (rest : Bytes) :
    (fetchHeader {} store known (s ++ crlf ++ rest)).result = .error .signedOverflow := by
  obtain ⟨i, hfeed⟩ := IntegerBuilder.feed_tooGreat h hn rest
  simp only [fetchHeader, hfeed]

end Header

/-! ## Bulk strings -/

namespace BulkStringBuilder

variable {s payload : Bytes} {n : Int}

theorem feed_numeral (h : Numeral s n) (hn : n.natAbs < 2 ^ 63) :
    ∃ i : IntegerBuilder, i.getInteger = n ∧
      ∀ rest, feed {} (s ++ crlf ++ rest) = feedPayload (setSize {} i) rest := by
  obtain ⟨i, -, hvalue, hfetch⟩ :=
    fetchHeader_numeral (fun i => { intBuilder := i }) (setSize {}) h hn
  refine ⟨i, hvalue, fun rest => ?_⟩
  unfold feed andThen fetchSize
  simp only [Bool.false_eq_true, if_false, hfetch]

theorem feed_tooGreat (h : Numeral s n) (hn : ¬ n.natAbs < 2 ^ 63) (rest : Bytes) :
    (feed {} (s ++ crlf ++ rest)).result = .error .signedOverflow := by
  have hfetch := fetchHeader_tooGreat (fun i => { intBuilder := i }) (setSize {}) h hn rest
  unfold feed andThen fetchSize
  rw [if_neg Bool.false_ne_true]
  dsimp only
  rw [if_neg Bool.false_ne_true]
  rcases hheader : fetchHeader {} (fun i => { intBuilder := i }) (setSize {}) (s ++ crlf ++ rest) with
    ⟨b, r, o⟩
  rw [hheader] at hfetch
  cases hfetch
  rfl

theorem decodes_null (h : Numeral s n) (hn : n.natAbs < 2 ^ 63) (hnull : Int32.ofInt n = -1) :
    Decodes (line 36 s) {} := by
  obtain ⟨i, hvalue, hfeed⟩ := feed_numeral h hn
  have hset : setSize {} i =
      { intBuilder := i, strSize := -1, isNull := true, replyReady := true } := by
    simp [setSize, hvalue, hnull, buildReply, Reply.setNull]
  rw [← List.append_nil (line 36 s)]
  refine Decodes.ofLine (.bulkString (setSize {} i)) rfl (fun rest => ?_) ?_ ?_
  · rw [Builder.feed_bulkString, List.nil_append, hfeed, hset]
    rfl
  · rw [hset]
    rfl
  · rw [hset]
    rfl

theorem decodes_payload (h : Numeral s n) (hn : n.natAbs < 2 ^ 63)
    (hsize : (Int32.ofInt n).toInt = payload.length) (hlength : payload.length ≤ 2 ^ 31 - 3) :
    Decodes (line 36 s ++ payload ++ crlf) (.ofString payload .bulkString) := by
  obtain ⟨i, rfl, hfeed⟩ := feed_numeral h hn
  have hnull : Int32.ofInt i.getInteger ≠ -1 := ne_null (by rw [hsize]; omega)
  rw [List.append_assoc]
  refine Decodes.ofLine (.bulkString (buildReply
    { intBuilder := i, strSize := .ofInt i.getInteger, str := payload })) rfl (fun rest => ?_) rfl rfl
  have harrived := fetchStr_payload
    (b := { intBuilder := i, strSize := .ofInt i.getInteger }) (x := payload ++ crlf ++ rest) hsize
    hlength (by rw [List.append_assoc, List.drop_left]; rfl) (by simp [crlf])
  rw [Builder.feed_bulkString, hfeed, feedPayload_setSize hnull, harrived, List.append_assoc payload,
    List.take_left, ← List.append_assoc, List.drop_left' (by simp [crlf])]
  rfl

theorem faults_payload (h : Numeral s n) (hn : n.natAbs < 2 ^ 63)
    (hsize : (Int32.ofInt n).toInt = payload.length) (hlength : ¬ payload.length ≤ 2 ^ 31 - 3) :
    Faults (line 36 s ++ payload ++ crlf) := by
  obtain ⟨i, rfl, hfeed⟩ := feed_numeral h hn
  have hnull : Int32.ofInt i.getInteger ≠ -1 := ne_null (by rw [hsize]; omega)
  refine ⟨36, s ++ crlf ++ (payload ++ crlf), .bulkString {}, .signedOverflow, ?_, rfl, ?_⟩
  · rw [line, List.append_assoc, List.cons_append]
  · rw [Builder.feed_bulkString, hfeed, feedPayload_setSize hnull]
    exact fetchStr_overflows hsize (Nat.not_le.mp hlength) List.drop_left

theorem faults_size (h : Numeral s n) (hn : ¬ n.natAbs < 2 ^ 63) (rest : Bytes) :
    Faults (line 36 s ++ rest) := by
  refine ⟨36, s ++ crlf ++ rest, .bulkString {}, .signedOverflow, rfl, rfl, ?_⟩
  rw [Builder.feed_bulkString]
  exact feed_tooGreat h hn rest

end BulkStringBuilder

/-! ## Arrays -/

/-- A turn on the bytes of a reply on which the code faults. -/
theorem feedCurrent_faults {τ : Type} (t : τ) (store : Builder → τ)
    (complete : Builder → Except Fault τ) {code : Bytes} (h : Faults code) (rest : Bytes) :
    ∃ e, (feedCurrent Builder.feed t none store complete (code ++ rest)).result = .error e := by
  obtain ⟨id, body, b₀, e, rfl, hid, hfeed⟩ := h
  refine ⟨e, ?_⟩
  have hrest := Builder.feed_faults hfeed rest
  rcases hturn : b₀.feed (body ++ rest) with ⟨b, r, o⟩
  rw [hturn] at hrest
  cases hrest
  unfold feedCurrent
  simp only [takeBuilder, List.cons_append, hid, Except.map, hturn]

namespace ArrayBuilder

variable {a : ArrayBuilder Builder} {p s : Bytes} {ps : List Bytes} {r : Reply} {rs : List Reply}
  {n : Int}

/-- The members once a row is complete. -/
def withRow (a : ArrayBuilder Builder) (r : Reply) : ArrayBuilder Builder :=
  { a with
    currentBuilder := none
    reply := a.reply.append r
    replyReady := decide (a.reply.rows.length + 1 = a.arraySize) }

/-- A turn on the bytes of one row. -/
theorem rowTurn_decodes (hc : a.currentBuilder = none) (hr : a.replyReady = false)
    (h : Decodes p r) (rest : Bytes) :
    rowTurn Builder.feed a (p ++ rest) = ⟨a.withRow r, rest, .ok true⟩ := by
  obtain ⟨b, rfl, hturn⟩ := feedCurrent_decodes a (fun b => { a with currentBuilder := some b })
    a.addRow h rest
  have hgo : ¬ (p ++ rest = [] ∨ a.replyReady = true) := by
    rintro (h' | h')
    · exact h.ne_nil _ h'
    · rw [hr] at h'
      cases h'
  have hadd : a.addRow b = .ok (a.withRow b.getReply) := by
    simp only [addRow, withRow, Reply.asArray_append, bind, Except.bind, pure, Except.pure,
      List.length_append, List.length_singleton]
    by_cases hlast : a.reply.rows.length + 1 = a.arraySize <;> simp [hlast, hr]
  unfold rowTurn buildRow
  rw [if_neg hgo, hc]
  exact hturn _ hadd

theorem rowTurn_faults (hc : a.currentBuilder = none) (hr : a.replyReady = false) (h : Faults p)
    (rest : Bytes) : ∃ e, (rowTurn Builder.feed a (p ++ rest)).result = .error e := by
  have hgo : ¬ (p ++ rest = [] ∨ a.replyReady = true) := by
    rintro (h' | h')
    · obtain ⟨id, body, _, _, rfl, -⟩ := h
      cases h'
    · rw [hr] at h'
      cases h'
  unfold rowTurn buildRow
  rw [if_neg hgo, hc]
  exact feedCurrent_faults _ _ _ h rest

/-- Some rows, and no more than are missing. -/
theorem rows_decode_all (hc : a.currentBuilder = none) (hr : rs ≠ [] → a.replyReady = false)
    (h : List.Forall₂ Decodes ps rs) (hsize : a.reply.rows.length + rs.length ≤ a.arraySize)
    (rest : Bytes) :
    run (rowTurn Builder.feed) weight a (ps.flatten ++ rest) =
      run (rowTurn Builder.feed) weight (rs.foldl withRow a) rest := by
  induction h generalizing a with
  | nil => rfl
  | @cons p r ps rs hrow hrows ih =>
    rw [List.length_cons] at hsize
    have hlength : (a.withRow r).reply.rows.length = a.reply.rows.length + 1 := List.length_append
    have hmore (hne : rs ≠ []) : (a.withRow r).replyReady = false := by
      have := List.length_pos_of_ne_nil hne
      exact decide_eq_false (by omega)
    have hsize' : (a.withRow r).reply.rows.length + rs.length ≤ (a.withRow r).arraySize := by
      rw [hlength]
      exact (by omega : a.reply.rows.length + 1 + rs.length ≤ a.arraySize)
    rw [List.flatten_cons, List.append_assoc, run_eq (progress_rowTurn Builder.resumable),
      rowTurn_decodes hc (hr (List.cons_ne_nil _ _)) hrow]
    exact ih rfl hmore hsize'

/-- What the members are after some rows. -/
theorem foldl_withRow (hc : a.currentBuilder = none) (rs : List Reply) :
    (rs.foldl withRow a).arraySize = a.arraySize ∧ (rs.foldl withRow a).currentBuilder = none ∧
      (rs.foldl withRow a).reply.rows = a.reply.rows ++ rs := by
  induction rs generalizing a with
  | nil => exact ⟨rfl, hc, (List.append_nil _).symm⟩
  | cons r rs ih =>
    obtain ⟨hsize, hcurrent, hrows⟩ := ih (a := a.withRow r) rfl
    refine ⟨hsize, hcurrent, ?_⟩
    rw [List.foldl_cons, hrows]
    exact List.append_assoc _ _ _

theorem foldl_withRow_reply (front rs : List Reply) (h : a.reply = .ofRows front) :
    (rs.foldl withRow a).reply = .ofRows (front ++ rs) := by
  induction rs generalizing a front with
  | nil => rw [List.foldl_nil, List.append_nil, h]
  | cons r rs ih =>
    rw [List.foldl_cons, ih (front ++ [r]) (by rw [withRow, h]; rfl), List.append_assoc]
    rfl

/-- The last of the rows that are missing makes the array ready. -/
theorem foldl_withRow_ready (hc : a.currentBuilder = none) (hne : rs ≠ []) :
    (rs.foldl withRow a).replyReady = decide (a.reply.rows.length + rs.length = a.arraySize) := by
  obtain ⟨front, last, rfl⟩ := List.eq_nil_or_concat rs |>.resolve_left hne
  obtain ⟨hsame, -, hrows⟩ := foldl_withRow hc front
  rw [List.concat_eq_append, List.foldl_append, List.length_append, List.length_singleton,
    ← Nat.add_assoc, ← List.length_append, ← hrows, ← hsame]
  rfl

/-! ### The header -/

theorem feed_numeral (h : Numeral s n) (hn : n.natAbs < 2 ^ 63) :
    ∃ i : IntegerBuilder, i.getInteger = n ∧
      ∀ rest, feed Builder.feed {} (s ++ crlf ++ rest) =
        run (rowTurn Builder.feed) weight (setArraySize {} i) rest := by
  obtain ⟨i, -, hvalue, hfetch⟩ :=
    fetchHeader_numeral (fun i => { intBuilder := i }) (setArraySize {}) h hn
  refine ⟨i, hvalue, fun rest => ?_⟩
  unfold feed andThen fetchArraySize
  simp only [Bool.false_eq_true, if_false, hfetch]

theorem feed_tooGreat (h : Numeral s n) (hn : ¬ n.natAbs < 2 ^ 63) (rest : Bytes) :
    (feed Builder.feed {} (s ++ crlf ++ rest)).result = .error .signedOverflow := by
  have hfetch := fetchHeader_tooGreat (fun i => { intBuilder := i }) (setArraySize {}) h hn rest
  unfold feed andThen fetchArraySize
  rw [if_neg Bool.false_ne_true]
  dsimp only
  rw [if_neg Bool.false_ne_true]
  rcases hheader : fetchHeader {} (fun i => { intBuilder := i }) (setArraySize {})
    (s ++ crlf ++ rest) with ⟨b, r, o⟩
  rw [hheader] at hfetch
  cases hfetch
  rfl

theorem run_ready (hr : a.replyReady = true) (rest : Bytes) :
    run (rowTurn Builder.feed) weight a rest = ⟨a, rest, .ok ()⟩ := by
  rw [run_eq (progress_rowTurn Builder.resumable), rowTurn, if_pos (.inr hr)]

/-- The header of an array that is not empty. -/
theorem setArraySize_pos {i : IntegerBuilder} {k : Nat} (hvalue : i.getInteger = k) (hk : 0 < k)
    (hn : k < 2 ^ 63) : setArraySize {} i = { intBuilder := i, arraySize := k } := by
  have hsize : toSize k = k := by
    unfold toSize
    omega
  simp only [setArraySize, hvalue, hsize]
  rw [if_neg (by omega), if_neg (by omega)]

theorem decodes_null (h : Numeral s n) (hn : n.natAbs < 2 ^ 63) (hnull : n < 0) :
    Decodes (line 42 s) {} := by
  obtain ⟨i, rfl, hfeed⟩ := feed_numeral h hn
  have hset : setArraySize {} i =
      { intBuilder := i, arraySize := toSize i.getInteger, replyReady := true, reply := {} } :=
    if_pos hnull
  rw [← List.append_nil (line 42 s)]
  refine Decodes.ofLine (.array (setArraySize {} i)) rfl (fun rest => ?_) ?_ ?_
  · rw [Builder.feed_array, List.nil_append, hfeed, run_ready (by rw [hset])]
    rfl
  · rw [hset]
    rfl
  · rw [hset]
    rfl

theorem decodes_rows (h : Numeral s rs.length) (hlength : rs.length < 2 ^ 63)
    (hrows : List.Forall₂ Decodes ps rs) : Decodes (line 42 s ++ ps.flatten) (.ofRows rs) := by
  obtain ⟨i, hvalue, hfeed⟩ := feed_numeral h (by omega)
  rcases Nat.eq_zero_or_pos rs.length with hempty | hpos
  · -- the special path of an empty array: ready with the header
    have hset : setArraySize {} i = { intBuilder := i, replyReady := true } := by
      simp [setArraySize, hvalue, hempty, toSize]
    obtain rfl := List.length_eq_zero_iff.mp hempty
    cases hrows
    refine Decodes.ofLine (.array (setArraySize {} i)) rfl (fun rest => ?_) ?_ ?_
    · rw [Builder.feed_array, hfeed, run_ready (by rw [hset])]
      rfl
    · rw [hset]
      rfl
    · rw [hset]
      rfl
  · have hset := setArraySize_pos hvalue hpos hlength
    have hready : (rs.foldl withRow (setArraySize {} i)).replyReady = true := by
      rw [hset, foldl_withRow_ready rfl (List.ne_nil_of_length_pos hpos)]
      exact decide_eq_true (Nat.zero_add _)
    have hreply : (rs.foldl withRow (setArraySize {} i)).reply = .ofRows rs := by
      rw [hset]
      exact foldl_withRow_reply [] rs rfl
    refine Decodes.ofLine (.array (rs.foldl withRow (setArraySize {} i))) rfl (fun rest => ?_) hready
      hreply
    rw [Builder.feed_array, hfeed, rows_decode_all (by rw [hset]) (fun _ => by rw [hset]) hrows
      (by rw [hset]; exact Nat.le_of_eq (Nat.zero_add _)), run_ready hready]
    rfl

/-- A row on which the code faults, after others that are read. -/
theorem faults_row {k : Nat} (h : Numeral s k) (hk : k < 2 ^ 63)
    (hrows : List.Forall₂ Decodes ps rs) (hmore : rs.length < k) (hp : Faults p) (rest : Bytes) :
    Faults (line 42 s ++ (ps.flatten ++ (p ++ rest))) := by
  obtain ⟨i, hvalue, hfeed⟩ := feed_numeral h (by omega)
  have hset := setArraySize_pos hvalue (by omega) hk
  obtain ⟨-, hcurrent, -⟩ := foldl_withRow (a := setArraySize {} i) (by rw [hset]) rs
  have hready : (rs.foldl withRow (setArraySize {} i)).replyReady = false := by
    rw [hset]
    cases rs with
    | nil => rfl
    | cons r rs =>
      rw [foldl_withRow_ready rfl (List.cons_ne_nil _ _)]
      exact decide_eq_false fun h => Nat.ne_of_lt hmore ((Nat.zero_add _).symm.trans h)
  obtain ⟨e, hturn⟩ := rowTurn_faults hcurrent hready hp rest
  refine ⟨42, s ++ crlf ++ (ps.flatten ++ (p ++ rest)), .array {}, e, rfl, rfl, ?_⟩
  rw [Builder.feed_array, hfeed, rows_decode_all (by rw [hset]) (fun _ => by rw [hset]) hrows
    (by rw [hset]; exact Nat.le_of_lt (by simpa [Reply.ofRows] using hmore)),
    run_eq (progress_rowTurn Builder.resumable)]
  rcases hrow : rowTurn Builder.feed (rs.foldl withRow (setArraySize {} i)) (p ++ rest) with
    ⟨b, r, o⟩
  rw [hrow] at hturn
  cases hturn
  rfl

theorem faults_size (h : Numeral s n) (hn : ¬ n.natAbs < 2 ^ 63) (rest : Bytes) :
    Faults (line 42 s ++ rest) := by
  refine ⟨42, s ++ crlf ++ rest, .array {}, .signedOverflow, rfl, rfl, ?_⟩
  rw [Builder.feed_array]
  exact feed_tooGreat h hn rest

end ArrayBuilder

/-! ## Replies -/

namespace IntegerBuilder

theorem decodes_number {s : Bytes} {n : Int} (h : Numeral s n) (hn : n.natAbs < 2 ^ 63) :
    Decodes (line 58 s) (.ofInteger n) := by
  obtain ⟨i, hready, -, hreply, hfeed⟩ := feed_numeral h hn
  rw [← List.append_nil (line 58 s)]
  refine Decodes.ofLine (.integer i) rfl (fun rest => ?_) hready hreply
  rw [Builder.feed_integer, List.nil_append, hfeed]
  rfl

theorem faults_number {s : Bytes} {n : Int} (h : Numeral s n) (hn : ¬ n.natAbs < 2 ^ 63) :
    Faults (line 58 s) := by
  obtain ⟨i, hfeed⟩ := feed_tooGreat h hn []
  refine ⟨58, s ++ crlf, .integer {}, .signedOverflow, rfl, rfl, ?_⟩
  rw [List.append_nil] at hfeed
  rw [Builder.feed_integer, hfeed]
  rfl

end IntegerBuilder

mutual

/-- What is accepted is read, by induction on its nesting. -/
theorem Accepts.decodes : ∀ {p : Bytes} {r : Reply}, Accepts p r → Decodes p r
  | _, _, .simpleString hs => Value.decodes_encode (v := .simpleString _) hs
  | _, _, .error hs => Value.decodes_encode (v := .error _) hs
  | _, _, .integer hs hn => IntegerBuilder.decodes_number hs hn
  | _, _, .nullBulk hs hn hnull => BulkStringBuilder.decodes_null hs hn hnull
  | _, _, .bulkString hs hn hsize hlength => BulkStringBuilder.decodes_payload hs hn hsize hlength
  | _, _, .nullArray hs hn hnull => ArrayBuilder.decodes_null hs hn hnull
  | _, _, .array hs hlength hrows => ArrayBuilder.decodes_rows hs hlength hrows.decodes

theorem AcceptsAll.decodes : ∀ {ps : List Bytes} {rs : List Reply}, AcceptsAll ps rs →
    List.Forall₂ Decodes ps rs
  | _, _, .nil => .nil
  | _, _, .cons hrow hrows => .cons hrow.decodes hrows.decodes

end

/-- The code faults on one of so many replies, after others that it reads. -/
def FaultsWithin (count : Nat) (x : Bytes) : Prop :=
  ∃ ps rs p more, x = ps.flatten ++ (p ++ more) ∧ List.Forall₂ Decodes ps rs ∧
    rs.length < count ∧ Faults p

theorem FaultsWithin.first {p : Bytes} {count : Nat} (h : Faults p) (more : Bytes) :
    FaultsWithin (count + 1) (p ++ more) :=
  ⟨[], [], p, more, rfl, .nil, Nat.succ_pos count, h⟩

theorem FaultsWithin.next {p x : Bytes} {r : Reply} {count : Nat} (h : FaultsWithin count x)
    (hp : Decodes p r) : FaultsWithin (count + 1) (p ++ x) := by
  obtain ⟨ps, rs, q, more, rfl, hps, hlength, hq⟩ := h
  exact ⟨p :: ps, r :: rs, q, more, (List.append_assoc _ _ _).symm, .cons hp hps,
    Nat.succ_lt_succ hlength, hq⟩

mutual

/-- A reply of the grammar is accepted, or one of its numbers overflows. -/
theorem Reads.accepts_or_faults : ∀ {p : Bytes} {r : Reply} {hs : List Int}, Reads p r hs →
    Accepts p r ∨ Faults p
  | _, _, _, .simpleString hs => .inl (.simpleString hs)
  | _, _, _, .error hs => .inl (.error hs)
  | _, _, _, .integer (n := n) hs => by
    by_cases hn : n.natAbs < 2 ^ 63
    · exact .inl (.integer hs hn)
    · exact .inr (IntegerBuilder.faults_number hs hn)
  | _, _, _, .nullBulk (s := s) (n := n) hs hnull => by
    by_cases hn : n.natAbs < 2 ^ 63
    · exact .inl (.nullBulk hs hn hnull)
    · have hfault := BulkStringBuilder.faults_size hs hn []
      rw [List.append_nil] at hfault
      exact .inr hfault
  | _, _, _, @Reads.bulkString s payload n hs hsize => by
    by_cases hn : n.natAbs < 2 ^ 63
    · by_cases hlength : payload.length ≤ 2 ^ 31 - 3
      · exact .inl (.bulkString hs hn hsize hlength)
      · exact .inr (BulkStringBuilder.faults_payload hs hn hsize hlength)
    · rw [List.append_assoc]
      exact .inr (BulkStringBuilder.faults_size hs hn _)
  | _, _, _, .nullArray (n := n) hs hnull => by
    by_cases hn : n.natAbs < 2 ^ 63
    · exact .inl (.nullArray hs hn hnull)
    · have hfault := ArrayBuilder.faults_size hs hn []
      rw [List.append_nil] at hfault
      exact .inr hfault
  | _, _, _, @Reads.array _ _ rs _ hs hrows => by
    by_cases hn : rs.length < 2 ^ 63
    · rcases hrows.accepts_or_faults with hall | ⟨ps, rs', p, more, hflatten, hps, hlength, hp⟩
      · exact .inl (.array hs hn hall)
      · rw [hflatten]
        exact .inr (ArrayBuilder.faults_row hs hn hps hlength hp more)
    · exact .inr (ArrayBuilder.faults_size hs (fun h => hn h) _)

theorem ReadsAll.accepts_or_faults : ∀ {ps : List Bytes} {rs : List Reply} {hs : List Int},
    ReadsAll ps rs hs → AcceptsAll ps rs ∨ FaultsWithin rs.length ps.flatten
  | _, _, _, .nil => .inl .nil
  | _, _, _, .cons hrow hrows => by
    rcases hrow.accepts_or_faults with hfirst | hfault
    · rcases hrows.accepts_or_faults with hall | hlater
      · exact .inl (.cons hfirst hall)
      · exact .inr (hlater.next hfirst.decodes)
    · exact .inr (.first hfault _)

end

/-! ## The stream -/

namespace Stage

variable {ps : List Bytes} {rs : List Reply}

theorem run_decodes (h : List.Forall₂ Decodes ps rs) (available : List Reply) (rest : Bytes) :
    run buildReply weight { builder := none, availableReplies := available } (ps.flatten ++ rest) =
      run buildReply weight { builder := none, availableReplies := available ++ rs } rest := by
  induction h generalizing available with
  | nil => rw [List.append_nil, List.flatten_nil, List.nil_append]
  | @cons p r ps rs hp hps ih =>
    obtain ⟨b, rfl, hturn⟩ := feedCurrent_decodes { builder := none, availableReplies := available }
      (fun b => { builder := some b, availableReplies := available })
      (fun b => .ok (addReply { builder := none, availableReplies := available } b)) hp
      (ps.flatten ++ rest)
    rw [List.flatten_cons, List.append_assoc, run_eq progress_buildReply, buildReply,
      if_neg (hp.ne_nil _), hturn _ rfl]
    dsimp only [addReply]
    rw [ih, List.append_assoc, List.singleton_append]

theorem run_faults {p : Bytes} (h : Faults p) (available : List Reply) (rest : Bytes) :
    ∃ e, (run buildReply weight { builder := none, availableReplies := available }
      (p ++ rest)).result = .error e := by
  obtain ⟨e, hturn⟩ := feedCurrent_faults { builder := none, availableReplies := available }
    (fun b => { builder := some b, availableReplies := available })
    (fun b => .ok (addReply { builder := none, availableReplies := available } b)) h rest
  have hne : p ++ rest ≠ [] := by
    obtain ⟨id, body, _, _, rfl, -⟩ := h
    exact List.cons_ne_nil _ _
  refine ⟨e, ?_⟩
  rw [run_eq progress_buildReply, buildReply, if_neg hne]
  rcases hcurrent : feedCurrent Builder.feed { builder := none, availableReplies := available } none
    (fun b => { builder := some b, availableReplies := available })
    (fun b => .ok (addReply { builder := none, availableReplies := available } b)) (p ++ rest) with
    ⟨t, r, o⟩
  rw [hcurrent] at hturn
  cases hturn
  rfl

end Stage

namespace ReplyBuilder

variable {ps : List Bytes} {rs : List Reply} {x : Bytes}

/-- Some replies, and what follows them. -/
theorem feed_decodes (h : List.Forall₂ Decodes ps rs) (available : List Reply) (rest : Bytes) :
    feed { availableReplies := available } (ps.flatten ++ rest) =
      feed { availableReplies := available ++ rs } rest := by
  have hrun := Stage.run_decodes h available rest
  unfold feed
  dsimp only
  rw [List.nil_append, List.nil_append, hrun]

theorem feed_faults {p : Bytes} (h : Faults p) (available : List Reply) (rest : Bytes) :
    (feed { availableReplies := available } (p ++ rest)).2 ≠ .ok () := by
  obtain ⟨e, hrun⟩ := Stage.run_faults h available rest
  unfold feed
  dsimp only
  rw [List.nil_append, hrun]
  exact nofun

theorem feed_faultsWithin {count : Nat} (h : FaultsWithin count x) (rest : Bytes) :
    (feed {} (x ++ rest)).2 ≠ .ok () := by
  obtain ⟨ps, rs, p, more, rfl, hps, -, hp⟩ := h
  rw [List.append_assoc, List.append_assoc, feed_decodes hps []]
  exact feed_faults hp rs _

/-- Nothing is taken from the replies that are available. -/
theorem feed_adds (available : List Reply) (x : Bytes) :
    ∃ more, (feed { availableReplies := available } x).1.availableReplies = available ++ more := by
  have hprepend := feed_prepend available {} x
  rw [show prepend available {} = { availableReplies := available } from
    congrArg (fun rs => ReplyBuilder.mk ⟨none, rs⟩ []) (List.append_nil available)] at hprepend
  rw [hprepend]
  exact ⟨_, rfl⟩

/-- What was read without a fault is accepted, and what is left over does not begin with a
reply. -/
theorem feed_accepted {b : ReplyBuilder} (h : feed {} x = (b, .ok ())) :
    ∃ ps q, x = ps.flatten ++ q ∧ AcceptsAll ps b.availableReplies ∧
      (b.builder = none → q = b.buffer) ∧ ∀ p r hs t, q = p ++ t → ¬ Reads p r hs := by
  obtain ⟨p, rfl, ps, hs, q, rfl, hreads, hnone, -⟩ := feed_received h
  rw [List.append_assoc] at h
  rcases hreads.accepts_or_faults with haccepts | hfaults
  · refine ⟨ps, q ++ b.buffer, List.append_assoc _ _ _, haccepts,
      fun hb => by rw [hnone hb, List.nil_append], ?_⟩
    intro p r hs t hp hread
    rw [hp, feed_decodes haccepts.decodes [], List.nil_append] at h
    rcases hread.accepts_or_faults with hone | hfault
    · -- one more reply would be available
      have hmore := feed_decodes (.cons hone.decodes .nil) b.availableReplies t
      rw [List.flatten_singleton, h] at hmore
      obtain ⟨more, hadds⟩ := feed_adds (b.availableReplies ++ [r]) t
      have hlength := congrArg (fun b => b.1.availableReplies.length) hmore
      dsimp only at hlength
      rw [hadds] at hlength
      simp at hlength
    · exact feed_faults hfault _ t (congrArg Prod.snd h)
  · exact absurd (congrArg Prod.snd h) (feed_faultsWithin hfaults _)

/-- The streams that a new builder reads to their end without a fault, in whatever chunks, are
those that are made of accepted replies, and it makes available just these. -/
theorem feedAll_accepts_iff (chunks : List Bytes) (rs : List Reply) :
    feedAll {} chunks = ({ builder := none, availableReplies := rs, buffer := [] }, .ok ()) ↔
      ∃ ps, chunks.flatten = ps.flatten ∧ AcceptsAll ps rs := by
  constructor
  · intro h
    obtain ⟨ps, q, hx, haccepts, hnone, -⟩ := feed_accepted (feedAll_ok settled_new h)
    rw [hnone rfl, List.append_nil] at hx
    exact ⟨ps, hx, haccepts⟩
  · rintro ⟨ps, hx, haccepts⟩
    have hfeed := feed_decodes haccepts.decodes [] []
    rw [List.append_nil, ← hx] at hfeed
    obtain ⟨-, ho, hs⟩ := feedAll_flatten settled_new chunks
    rw [hfeed] at ho hs
    exact Prod.ext (hs ho) ho

end ReplyBuilder

end CppRedis
