import CppRedis.Soundness
import Mathlib.Data.List.TakeWhile

/-!
# The numbers that are accepted

The digit loop of `integer_builder` on every line, and where its lines stand in the
stream.

* `Readable s`: the loop reads a number or an invalid character of `s`, and no overflow.
* `AtHeader id r`: the builder `r` of a stream has just read the type byte `id` of an element,
  which may stand in arrays nested to any depth.
* `numeralsOnly_iff`: only numerals are numbers, if and only if the line is readable.
* `decodesInt_iff`: an integer survives being written and read, if and only if it is not the
  least one.
-/

namespace CppRedis

open Text Consumer

/-! ## The digit loop -/

/-- The values of an `int64_t`. -/
def InInt64 (v : Int) : Prop :=
  -2 ^ 63 ≤ v ∧ v < 2 ^ 63

instance (v : Int) : Decidable (InInt64 v) :=
  inferInstanceAs (Decidable (_ ∧ _))

theorem checkInt64_ok {v : Int} (h : InInt64 v) : checkInt64 v = .ok v :=
  if_pos h

theorem checkInt64_overflow {v : Int} (h : ¬ InInt64 v) : checkInt64 v = .error .signedOverflow :=
  if_neg h

namespace IntegerBuilder

/-- What the loop throws at the first byte that is no digit. -/
def invalidCharacter : Fault :=
  .redisError "Invalid character for integer redis reply"

section Digits

variable {b : IntegerBuilder} {i n : Nat} {c : Byte}

/-- Where the loop does not look for a minus any more. -/
def PastSign (i : Nat) (s : Bytes) : Prop :=
  i ≠ 0 ∨ s.head? ≠ some minus

theorem PastSign.not_minus {s : Bytes} (h : PastSign i (c :: s)) :
    ¬ (i = 0 ∧ b.negativeMultiplicator = 1 ∧ c = minus) := by
  rintro ⟨rfl, -, rfl⟩
  exact h.elim (fun h => h rfl) (fun h => h rfl)

theorem scan_fits {s : Bytes} (hb : b.nbr = n) (hi : PastSign i (c :: s)) (hc : isDigit c = true)
    (h : n * 10 + digitValue c < 2 ^ 63) :
    b.scan i (c :: s) = scan { b with nbr := (n * 10 + digitValue c : Nat) } (i + 1) s := by
  have hten : checkInt64 (b.nbr * 10) = .ok (b.nbr * 10) := checkInt64_ok (by
    unfold InInt64
    omega)
  have hsum : checkInt64 (b.nbr * 10 + digitValue c) = .ok (n * 10 + digitValue c : Nat) := by
    have heq : b.nbr * 10 + digitValue c = ((n * 10 + digitValue c : Nat) : Int) := by omega
    rw [heq]
    exact checkInt64_ok (by
      unfold InInt64
      omega)
  rw [scan, if_neg hi.not_minus, if_neg (by rw [hc]; exact Bool.true_eq_false_eq_False), hten]
  dsimp only
  rw [hsum]

theorem scan_overflows {s : Bytes} (hb : b.nbr = n) (hi : PastSign i (c :: s))
    (hc : isDigit c = true) (h : 2 ^ 63 ≤ n * 10 + digitValue c) :
    ∃ b', b.scan i (c :: s) = (b', .error .signedOverflow) := by
  rw [scan, if_neg hi.not_minus, if_neg (by rw [hc]; exact Bool.true_eq_false_eq_False)]
  by_cases hten : InInt64 (b.nbr * 10)
  · rw [checkInt64_ok hten]
    dsimp only
    rw [checkInt64_overflow (by unfold InInt64; omega)]
    exact ⟨_, rfl⟩
  · rw [checkInt64_overflow hten]
    exact ⟨_, rfl⟩

theorem scan_invalid {s : Bytes} (hi : PastSign i (c :: s)) (hc : isDigit c = false) :
    b.scan i (c :: s) = (b, .error invalidCharacter) := by
  rw [scan, if_neg hi.not_minus, if_pos hc]
  rfl

/-- The digits at the front denote too great a number, whatever follows them. -/
theorem scan_tooGreat {s : Bytes} (hb : b.nbr = n) (hn : n < 2 ^ 63) (hi : PastSign i s)
    (h : 2 ^ 63 ≤ (s.takeWhile isDigit).foldl (fun n c => n * 10 + digitValue c) n) :
    ∃ b', b.scan i s = (b', .error .signedOverflow) := by
  induction s generalizing b i n with
  | nil => exact absurd hn (Nat.not_lt.mpr h)
  | cons c s ih =>
    cases hc : isDigit c with
    | false =>
      rw [List.takeWhile_cons_of_neg (by rw [hc]; exact Bool.false_ne_true)] at h
      exact absurd hn (Nat.not_lt.mpr h)
    | true =>
      rw [List.takeWhile_cons_of_pos hc, List.foldl_cons] at h
      rcases Nat.lt_or_ge (n * 10 + digitValue c) (2 ^ 63) with hfits | hgreat
      · rw [scan_fits hb hi hc hfits]
        exact ih rfl hfits (.inl (Nat.succ_ne_zero i)) h
      · exact scan_overflows hb hi hc hgreat

/-- The digits at the front fit, and a byte that is no digit follows them. -/
theorem scan_wrongByte {s : Bytes} (hb : b.nbr = n) (hi : PastSign i s)
    (h : (s.takeWhile isDigit).foldl (fun n c => n * 10 + digitValue c) n < 2 ^ 63)
    (hs : s.all isDigit = false) : ∃ b', b.scan i s = (b', .error invalidCharacter) := by
  induction s generalizing b i n with
  | nil => cases hs
  | cons c s ih =>
    cases hc : isDigit c with
    | false => exact ⟨b, scan_invalid hi hc⟩
    | true =>
      rw [List.takeWhile_cons_of_pos hc, List.foldl_cons] at h
      rw [List.all_cons, hc, Bool.true_and] at hs
      have hfits := Nat.lt_of_le_of_lt (le_foldl_digits _ _) h
      rw [scan_fits hb hi hc hfits]
      exact ih rfl (.inl (Nat.succ_ne_zero i)) h hs

/-- Nothing but digits, and they fit. -/
theorem scan_digits {s : Bytes} (hb : b.nbr = n) (hi : PastSign i s) (hs : s.all isDigit = true)
    (h : s.foldl (fun n c => n * 10 + digitValue c) n < 2 ^ 63) :
    b.scan i s = ({ b with nbr := (s.foldl (fun n c => n * 10 + digitValue c) n : Nat) }, .ok ()) := by
  induction s generalizing b i n with
  | nil =>
    rw [List.foldl_nil, ← hb]
    rfl
  | cons c s ih =>
    rw [List.all_cons, Bool.and_eq_true] at hs
    rw [List.foldl_cons] at h
    have hfits := Nat.lt_of_le_of_lt (le_foldl_digits _ _) h
    rw [scan_fits hb hi hs.1 hfits]
    exact ih rfl (.inl (Nat.succ_ne_zero i)) hs.2 h

end Digits

/-- A new builder takes the minus off, and then reads digits. -/
theorem scan_unsigned (s : Bytes) : ∃ i, PastSign i (unsigned s) ∧
    scan {} 0 s = scan { negativeMultiplicator := sign s } i (unsigned s) := by
  cases s with
  | nil => exact ⟨0, .inr (fun h => nomatch h), rfl⟩
  | cons c s =>
    by_cases hc : c = 45
    · refine ⟨1, .inl Nat.one_ne_zero, ?_⟩
      rw [scan, if_pos ⟨rfl, rfl, hc⟩, unsigned, if_pos hc, sign, hc]
      rfl
    · refine ⟨0, ?_, ?_⟩
      · rw [unsigned, if_neg hc]
        exact .inr fun h => hc (Option.some.inj h)
      · have hsign : sign (c :: s) = 1 := if_neg fun h => hc (Option.some.inj h)
        rw [unsigned, if_neg hc, hsign]

/-- The digits of the line fit, whether or not it is a numeral. -/
def Fits (s : Bytes) : Prop :=
  decimalValue (leadingDigits s) < 2 ^ 63

instance (s : Bytes) : Decidable (Fits s) :=
  inferInstanceAs (Decidable (_ < _))

theorem scan_not_fits {s : Bytes} (h : ¬ Fits s) : ∃ b, scan {} 0 s = (b, .error .signedOverflow) := by
  obtain ⟨i, hi, hscan⟩ := scan_unsigned s
  rw [hscan]
  exact scan_tooGreat (n := 0) rfl (by decide) hi (Nat.not_lt.mp h)

theorem scan_wrong {s : Bytes} (h : Fits s) (hs : (unsigned s).all isDigit = false) :
    ∃ b, scan {} 0 s = (b, .error invalidCharacter) := by
  obtain ⟨i, hi, hscan⟩ := scan_unsigned s
  rw [hscan]
  exact scan_wrongByte (n := 0) rfl hi h hs

theorem fits_iff_of_all {s : Bytes} (hs : (unsigned s).all isDigit = true) :
    Fits s ↔ decimalValue (unsigned s) < 2 ^ 63 := by
  unfold Fits leadingDigits
  rw [List.takeWhile_eq_self_iff.mpr (List.all_eq_true.mp hs)]

theorem scan_number {s : Bytes} (h : Fits s) (hs : (unsigned s).all isDigit = true) :
    scan {} 0 s =
      ({ nbr := decimalValue (unsigned s), negativeMultiplicator := sign s }, .ok ()) := by
  obtain ⟨i, hi, hscan⟩ := scan_unsigned s
  rw [hscan]
  exact scan_digits (n := 0) rfl hi hs ((fits_iff_of_all hs).mp h)

/-! ### One line -/

theorem feed_error {s : Bytes} {b : IntegerBuilder} {e : Fault} (hs : NoCrlf s) (rest : Bytes)
    (h : scan {} 0 s = (b, .error e)) :
    feed {} (s ++ crlf ++ rest) = ⟨b, s ++ crlf ++ rest, .error e⟩ := by
  unfold feed
  rw [findCrlf_line hs, if_neg Bool.false_ne_true]
  simp only [take_line, h]

theorem feed_ok {s : Bytes} {b : IntegerBuilder} (hs : NoCrlf s) (rest : Bytes)
    (h : scan {} 0 s = (b, .ok ())) :
    feed {} (s ++ crlf ++ rest) =
      ⟨{ b with reply := b.reply.setInteger b.getInteger, replyReady := true }, rest, .ok ()⟩ := by
  unfold feed
  rw [findCrlf_line hs, if_neg Bool.false_ne_true]
  simp only [take_line, drop_line, h]

/-- A line of nothing but digits that fit, after a minus that may be missing, is read as the
number that they denote. Without any digit that number is zero. -/
theorem feed_number {s : Bytes} (hcrlf : NoCrlf s) (h : Fits s)
    (hs : (unsigned s).all isDigit = true) :
    ∃ b : IntegerBuilder, b.replyReady = true ∧
      b.getInteger = sign s * decimalValue (unsigned s) ∧
      b.reply = .ofInteger (sign s * decimalValue (unsigned s)) ∧
      ∀ rest, feed {} (s ++ crlf ++ rest) = ⟨b, rest, .ok ()⟩ :=
  ⟨_, rfl, rfl, rfl, fun rest => feed_ok hcrlf rest (scan_number h hs)⟩

end IntegerBuilder

/-! ## Headers in the stream -/

/-- The builder of the element that is being read: that of the current row, if there is one. -/
def Builder.innermost : Builder → Builder
  | .array ⟨_, _, some b, _, _⟩ => b.innermost
  | b => b

theorem Builder.innermost_row {a : ArrayBuilder Builder} {b : Builder}
    (h : a.currentBuilder = some b) : (Builder.array a).innermost = b.innermost := by
  cases a
  cases h
  rfl

theorem Builder.innermost_rows {a : ArrayBuilder Builder} (h : a.currentBuilder = none) :
    (Builder.array a).innermost = .array a := by
  cases a
  cases h
  rfl

/-! ### The call of the current builder -/

section Current

variable {τ : Type} {feedRow : Builder → Bytes → Turn Builder Byte Fault Unit} {t : τ}
  {store : Builder → τ} {b b' : Builder} {x r : Bytes}

theorem feedCurrent_error {complete : Builder → Except Fault τ} {e : Fault}
    (h : feedRow b x = ⟨b', r, .error e⟩) :
    feedCurrent feedRow t (some b) store complete x = ⟨store b', r, .error e⟩ := by
  unfold feedCurrent takeBuilder
  simp only [h]

theorem feedCurrent_wait {complete : Builder → Except Fault τ} (h : feedRow b x = ⟨b', r, .ok ()⟩)
    (hb : b'.replyReady = false) :
    feedCurrent feedRow t (some b) store complete x = ⟨store b', r, .ok false⟩ := by
  unfold feedCurrent takeBuilder
  simp only [h, hb, if_true]

theorem feedCurrent_complete (complete : Builder → Except Fault τ) {t' : τ}
    (h : feedRow b x = ⟨b', r, .ok ()⟩) (hb : b'.replyReady = true) (ht : complete b' = .ok t') :
    feedCurrent feedRow t (some b) store complete x = ⟨t', r, .ok true⟩ := by
  unfold feedCurrent takeBuilder
  simp only [h, hb, ht, Bool.true_eq_false, if_false]

end Current

namespace ArrayBuilder

theorem exists_addRow (a : ArrayBuilder Builder) (b : Builder) : ∃ a', a.addRow b = .ok a' := by
  unfold addRow
  simp only [Reply.asArray_append, bind, Except.bind, pure, Except.pure]
  split <;> exact ⟨_, rfl⟩

/-- An array that knows its size and is not ready goes on with its rows. -/
theorem feed_rows {feedRow : Builder → Bytes → Turn Builder Byte Fault Unit}
    {a : ArrayBuilder Builder} (hi : a.intBuilder.replyReady = true) (hready : a.replyReady = false)
    (x : Bytes) : a.feed feedRow x = run (rowTurn feedRow) weight a x := by
  have hfetch : a.fetchArraySize x = ⟨a, x, .ok true⟩ := if_pos hi
  unfold feed
  rw [hready, if_neg Bool.false_ne_true]
  simp only [andThen, hfetch]

theorem rowTurn_current {feedRow : Builder → Bytes → Turn Builder Byte Fault Unit}
    {a : ArrayBuilder Builder} (hready : a.replyReady = false) {b : Builder}
    (hb : a.currentBuilder = some b) {x : Bytes} (hx : x ≠ []) :
    a.rowTurn feedRow x = feedCurrent feedRow a (some b)
      (fun b => { a with currentBuilder := some b }) a.addRow x := by
  have hgo : ¬ (x = [] ∨ a.replyReady = true) := by
    rw [hready]
    exact fun h => h.elim hx Bool.false_ne_true
  unfold rowTurn buildRow
  rw [if_neg hgo, hb]

theorem rowTurn_nil (feedRow : Builder → Bytes → Turn Builder Byte Fault Unit)
    (a : ArrayBuilder Builder) : a.rowTurn feedRow [] = ⟨a, [], .ok false⟩ :=
  if_pos (.inl rfl)

end ArrayBuilder

namespace Builder

/-- A fault of the innermost builder is one of all builders around it. -/
theorem feed_innermost_error {b c : Builder} {p x r : Bytes} {e : Fault} (hb : Reading b p)
    (hx : x ≠ []) (h : b.innermost.feed x = ⟨c, r, .error e⟩) :
    ∃ b', b.feed x = ⟨b', r, .error e⟩ := by
  induction hb with
  | fresh hid =>
    rcases createBuilder_ok hid with ⟨-, rfl⟩ | ⟨-, rfl⟩ | ⟨-, rfl⟩ | ⟨-, rfl⟩ | ⟨-, rfl⟩ <;>
      exact ⟨c, h⟩
  | payload => exact ⟨c, h⟩
  | @rows a _ _ _ _ _ hi hready _ _ _ _ _ _ ih =>
    cases hcurrent : a.currentBuilder with
    | none =>
      rw [innermost_rows hcurrent] at h
      exact ⟨c, h⟩
    | some b =>
      rw [innermost_row hcurrent] at h
      obtain ⟨b', hb'⟩ := ih b hcurrent h
      refine ⟨.array { a with currentBuilder := some b' }, ?_⟩
      rw [feed_array, ArrayBuilder.feed_rows hi hready,
        run_eq (ArrayBuilder.progress_rowTurn resumable),
        ArrayBuilder.rowTurn_current hready hcurrent hx, feedCurrent_error hb']
      rfl

/-- While the innermost builder waits, so do all builders around it. -/
theorem feed_innermost_wait {b c : Builder} {p x r : Bytes} (hb : Reading b p) (hx : x ≠ [])
    (h : b.innermost.feed x = ⟨c, r, .ok ()⟩) (hc : c.replyReady = false) :
    ∃ b', b.feed x = ⟨b', r, .ok ()⟩ ∧ b'.replyReady = false := by
  induction hb with
  | fresh hid =>
    rcases createBuilder_ok hid with ⟨-, rfl⟩ | ⟨-, rfl⟩ | ⟨-, rfl⟩ | ⟨-, rfl⟩ | ⟨-, rfl⟩ <;>
      exact ⟨c, h, hc⟩
  | payload => exact ⟨c, h, hc⟩
  | @rows a _ _ _ _ _ hi hready _ _ _ _ _ _ ih =>
    cases hcurrent : a.currentBuilder with
    | none =>
      rw [innermost_rows hcurrent] at h
      exact ⟨c, h, hc⟩
    | some b =>
      rw [innermost_row hcurrent] at h
      obtain ⟨b', hb', hwait⟩ := ih b hcurrent h
      refine ⟨.array { a with currentBuilder := some b' }, ?_, hready⟩
      rw [feed_array, ArrayBuilder.feed_rows hi hready,
        run_eq (ArrayBuilder.progress_rowTurn resumable),
        ArrayBuilder.rowTurn_current hready hcurrent hx, feedCurrent_wait hb' hwait]
      rfl

/-- What the innermost builder reads to the last byte meets no fault further out. -/
theorem feed_innermost_done {b c : Builder} {p x : Bytes} (hb : Reading b p) (hx : x ≠ [])
    (h : b.innermost.feed x = ⟨c, [], .ok ()⟩) : ∃ b', b.feed x = ⟨b', [], .ok ()⟩ := by
  induction hb with
  | fresh hid =>
    rcases createBuilder_ok hid with ⟨-, rfl⟩ | ⟨-, rfl⟩ | ⟨-, rfl⟩ | ⟨-, rfl⟩ | ⟨-, rfl⟩ <;>
      exact ⟨c, h⟩
  | payload => exact ⟨c, h⟩
  | @rows a _ _ _ _ _ hi hready _ _ _ _ _ _ ih =>
    cases hcurrent : a.currentBuilder with
    | none =>
      rw [innermost_rows hcurrent] at h
      exact ⟨c, h⟩
    | some b =>
      rw [innermost_row hcurrent] at h
      obtain ⟨b', hb'⟩ := ih b hcurrent h
      rw [feed_array, ArrayBuilder.feed_rows hi hready,
        run_eq (ArrayBuilder.progress_rowTurn resumable),
        ArrayBuilder.rowTurn_current hready hcurrent hx]
      cases hready' : b'.replyReady with
      | false =>
        rw [feedCurrent_wait hb' hready']
        exact ⟨_, rfl⟩
      | true =>
        -- the row is complete, and no byte is left for another one
        obtain ⟨a', ha'⟩ := a.exists_addRow b'
        rw [feedCurrent_complete a.addRow hb' hready' ha']
        dsimp only
        rw [run_eq (ArrayBuilder.progress_rowTurn resumable), ArrayBuilder.rowTurn_nil]
        exact ⟨_, rfl⟩

end Builder

namespace ReplyBuilder

/-- The builder has just read the type byte of an element, and nothing after it. -/
def AtHeader (id : Byte) (r : ReplyBuilder) : Prop :=
  r.buffer = [] ∧ ∃ b p, r.builder = some b ∧ Reading b p ∧ createBuilder id = .ok b.innermost

/-- Whatever stream led there: a new element has its own new builder. -/
theorem atHeader_of_feed {id : Byte} {s : Bytes} {r : ReplyBuilder} {b : Builder}
    (h : ({} : ReplyBuilder).feed s = (r, .ok ())) (hbuffer : r.buffer = [])
    (hb : r.builder = some b) (hid : createBuilder id = .ok b.innermost) : r.AtHeader id := by
  obtain ⟨_, -, _, _, q, -, -, -, hsome⟩ := feed_received h
  exact ⟨hbuffer, b, q, hb, hsome b hb, hid⟩

theorem settled_of_buffer_nil {r : ReplyBuilder} (h : r.buffer = []) : r.Settled := by
  unfold Settled feed
  rw [h, List.append_nil]
  cases r
  cases h
  rfl

section Header

variable {id : Byte} {r : ReplyBuilder} {c c' : Builder} {x rest : Bytes}

/-- Where the chunks are cut does not matter to it. -/
theorem AtHeader.feedAll (hr : r.AtHeader id) (chunks : List Bytes) :
    (r.feedAll chunks).2 = (r.feed chunks.flatten).2 ∧
      (r.feedAll chunks).1.availableReplies = (r.feed chunks.flatten).1.availableReplies := by
  obtain ⟨hstage, hresult, -⟩ := feedAll_flatten (settled_of_buffer_nil hr.1) chunks
  exact ⟨hresult, congrArg Stage.availableReplies hstage⟩

/-- What the builder of a stream does with the current builder. -/
theorem buildReply_current {b : Builder} (hb : r.builder = some b) (hx : x ≠ []) :
    r.toStage.buildReply x = feedCurrent Builder.feed r.toStage (some b)
      (fun b => { r.toStage with builder := some b }) (fun b => .ok (r.toStage.addReply b)) x := by
  unfold Stage.buildReply
  rw [if_neg hx, hb]

theorem AtHeader.feed_error (hr : r.AtHeader id) (hx : x ≠ []) (hc : createBuilder id = .ok c)
    {e : Fault} (h : c.feed x = ⟨c', rest, .error e⟩) :
    ∃ r', r.feed x = (r', .error e) ∧ r'.availableReplies = r.availableReplies := by
  obtain ⟨hbuffer, b, p, hb, hreading, hinner⟩ := hr
  rw [Except.ok.inj (hc.symm.trans hinner)] at h
  obtain ⟨b', hb'⟩ := Builder.feed_innermost_error hreading hx h
  unfold feed
  rw [hbuffer, List.nil_append, run_eq Stage.progress_buildReply, buildReply_current hb hx,
    feedCurrent_error hb']
  exact ⟨_, rfl, rfl⟩

theorem AtHeader.feed_wait (hr : r.AtHeader id) (hx : x ≠ []) (hc : createBuilder id = .ok c)
    (h : c.feed x = ⟨c', rest, .ok ()⟩) (hwait : c'.replyReady = false) :
    ∃ r', r.feed x = (r', .ok ()) ∧ r'.availableReplies = r.availableReplies := by
  obtain ⟨hbuffer, b, p, hb, hreading, hinner⟩ := hr
  rw [Except.ok.inj (hc.symm.trans hinner)] at h
  obtain ⟨b', hb', hwait'⟩ := Builder.feed_innermost_wait hreading hx h hwait
  unfold feed
  rw [hbuffer, List.nil_append, run_eq Stage.progress_buildReply, buildReply_current hb hx,
    feedCurrent_wait hb' hwait']
  exact ⟨_, rfl, rfl⟩

theorem AtHeader.feed_done (hr : r.AtHeader id) (hx : x ≠ []) (hc : createBuilder id = .ok c)
    (h : c.feed x = ⟨c', [], .ok ()⟩) : ∃ r', r.feed x = (r', .ok ()) := by
  obtain ⟨hbuffer, b, p, hb, hreading, hinner⟩ := hr
  rw [Except.ok.inj (hc.symm.trans hinner)] at h
  obtain ⟨b', hb'⟩ := Builder.feed_innermost_done hreading hx h
  unfold feed
  rw [hbuffer, List.nil_append, run_eq Stage.progress_buildReply, buildReply_current hb hx]
  cases hready : b'.replyReady with
  | false =>
    rw [feedCurrent_wait hb' hready]
    exact ⟨_, rfl⟩
  | true =>
    rw [feedCurrent_complete (fun b => .ok (r.toStage.addReply b)) hb' hready rfl]
    dsimp only
    rw [run_eq Stage.progress_buildReply]
    exact ⟨_, rfl⟩

end Header

end ReplyBuilder

/-! ## Only numerals are numbers -/

/-- A numeral of an `int64_t`: a minus that may be missing, and at least one digit. -/
def IsNumeral (s : Bytes) : Prop :=
  ∃ v, readInt s = some v ∧ InInt64 v

/-- The line throws a `redis_error` wherever it is cut and whatever follows it, and makes no
reply available. -/
def Refused (r : ReplyBuilder) (s : Bytes) : Prop :=
  ∀ chunks rest, chunks.flatten = s ++ crlf ++ rest →
    (r.feedAll chunks).1.availableReplies = r.availableReplies ∧
      ∃ what, (r.feedAll chunks).2 = .error (.redisError what)

/-- What a number is to the parser: what a numeral denotes. The lines of integers (`58`), bulk
strings (`36`) and arrays (`42`) all have one. -/
structure NumeralsOnly (s : Bytes) : Prop where
  delivers : ∀ v, readInt s = some v → InInt64 v → ∃ b : IntegerBuilder,
    IntegerBuilder.feed {} (s ++ crlf) = ⟨b, [], .ok ()⟩ ∧ b.replyReady = true ∧
      b.reply = .ofInteger v
  throws : ¬ IsNumeral s → ∃ b rest what,
    IntegerBuilder.feed {} (s ++ crlf) = ⟨b, rest, .error (.redisError what)⟩
  refuses : ¬ IsNumeral s → ∀ id ∈ [58, 36, 42], ∀ r : ReplyBuilder, r.AtHeader id → Refused r s

/-- There is something after the minus, and the digits there fit. -/
def Readable (s : Bytes) : Prop :=
  unsigned s ≠ [] ∧ IntegerBuilder.Fits s

instance (s : Bytes) : Decidable (Readable s) :=
  inferInstanceAs (Decidable (_ ∧ _))

theorem readDecimal_of_all {s : Bytes} (h : s ≠ []) (hs : s.all isDigit = true) :
    readDecimal s = some (decimalValue s) :=
  if_pos ⟨h, hs⟩

theorem readDecimal_of_not_all {s : Bytes} (hs : s.all isDigit = false) : readDecimal s = none :=
  if_neg fun h => by
    rw [hs] at h
    exact Bool.false_ne_true h.2

/-- The header of an element is read by an integer builder: its fault is one of the element. -/
theorem feed_header_error {id : Byte} (hid : id ∈ [58, 36, 42]) {x r : Bytes} {i : IntegerBuilder}
    {e : Fault} (h : IntegerBuilder.feed {} x = ⟨i, r, .error e⟩) :
    ∃ c c', createBuilder id = .ok c ∧ c.feed x = ⟨c', r, .error e⟩ := by
  simp only [List.mem_cons, List.not_mem_nil, or_false] at hid
  rcases hid with rfl | rfl | rfl
  · refine ⟨.integer {}, .integer i, rfl, ?_⟩
    rw [Builder.feed_integer, h]
    rfl
  · refine ⟨.bulkString {}, .bulkString { intBuilder := i }, rfl, ?_⟩
    have hfetch : BulkStringBuilder.fetchSize {} x = ⟨{ intBuilder := i }, r, .error e⟩ := by
      unfold BulkStringBuilder.fetchSize fetchHeader
      rw [if_neg Bool.false_ne_true, h]
    rw [Builder.feed_bulkString, BulkStringBuilder.feed, if_neg Bool.false_ne_true]
    simp only [andThen, hfetch]
    rfl
  · refine ⟨.array {}, .array { intBuilder := i }, rfl, ?_⟩
    have hfetch : ArrayBuilder.fetchArraySize {} x = ⟨{ intBuilder := i }, r, .error e⟩ := by
      unfold ArrayBuilder.fetchArraySize fetchHeader
      rw [if_neg Bool.false_ne_true, h]
    rw [Builder.feed_array, ArrayBuilder.feed, if_neg Bool.false_ne_true]
    simp only [andThen, hfetch]
    rfl

theorem line_ne_nil (s rest : Bytes) : s ++ crlf ++ rest ≠ [] := by
  simp [crlf]

/-- What is wrong with the line of an element is wrong wherever the element stands. -/
theorem refused_of_scan {id : Byte} (hid : id ∈ [58, 36, 42]) {r : ReplyBuilder}
    (hr : r.AtHeader id) {s : Bytes} {b : IntegerBuilder} (hs : NoCrlf s) {what : String}
    (h : IntegerBuilder.scan {} 0 s = (b, .error (.redisError what))) : Refused r s := by
  intro chunks rest hchunks
  obtain ⟨c, c', hc, hfeed⟩ := feed_header_error hid (IntegerBuilder.feed_error hs rest h)
  obtain ⟨r', hr', havailable⟩ := hr.feed_error (line_ne_nil s rest) hc hfeed
  obtain ⟨hresult, hreplies⟩ := hr.feedAll chunks
  rw [hchunks, hr'] at hresult hreplies
  exact ⟨hreplies.trans havailable, what, hresult⟩

section

variable {s : Bytes} (hs : NoCrlf s)
include hs

/-- Without a digit the loop reads a zero. -/
theorem NumeralsOnly.ne_nil (h : NumeralsOnly s) : unsigned s ≠ [] := by
  intro hnone
  have hread := readInt_eq s
  rw [hnone] at hread
  have hnot : ¬ IsNumeral s := by
    rintro ⟨v, hv, -⟩
    rw [hread] at hv
    cases hv
  obtain ⟨b, rest, what, hthrow⟩ := h.throws hnot
  have hall : (unsigned s).all isDigit = true := by rw [hnone]; rfl
  have hfits : IntegerBuilder.Fits s := by
    unfold IntegerBuilder.Fits leadingDigits
    rw [hnone]
    decide
  have hfeed := IntegerBuilder.feed_ok hs [] (IntegerBuilder.scan_number hfits hall)
  rw [List.append_nil, hthrow] at hfeed
  cases hfeed

/-- An overflow neither delivers a number nor throws a `redis_error`. -/
theorem NumeralsOnly.fits (h : NumeralsOnly s) : IntegerBuilder.Fits s := by
  by_contra hfits
  obtain ⟨i, hscan⟩ := IntegerBuilder.scan_not_fits hfits
  have hfeed := IntegerBuilder.feed_error hs [] hscan
  rw [List.append_nil] at hfeed
  by_cases hnumeral : IsNumeral s
  · obtain ⟨v, hv, hrange⟩ := hnumeral
    obtain ⟨b, hdeliver, -⟩ := h.delivers v hv hrange
    have hresult := congrArg Turn.result (hfeed.symm.trans hdeliver)
    cases hresult
  · obtain ⟨b, rest, what, hthrow⟩ := h.throws hnumeral
    rw [hfeed] at hthrow
    cases hthrow

/-- A numeral that fits is delivered. -/
theorem numeralsOnly_of_digits (hne : unsigned s ≠ []) (hfits : IntegerBuilder.Fits s)
    (hall : (unsigned s).all isDigit = true) : NumeralsOnly s := by
  have hread := readInt_eq s
  rw [readDecimal_of_all hne hall, Option.map_some] at hread
  have hlt := (IntegerBuilder.fits_iff_of_all hall).mp hfits
  have hnumeral : IsNumeral s := by
    refine ⟨_, hread, ?_⟩
    unfold InInt64 sign
    split <;> omega
  refine ⟨?_, fun hnot => absurd hnumeral hnot, fun hnot => absurd hnumeral hnot⟩
  intro v hv _
  obtain rfl := Option.some.inj (hread.symm.trans hv)
  obtain ⟨b, hready, -, hreply, hfeed⟩ := IntegerBuilder.feed_number hs hfits hall
  have hline := hfeed []
  rw [List.append_nil] at hline
  exact ⟨b, hline, hready, hreply⟩

/-- A byte that is no digit throws, wherever the line stands. -/
theorem numeralsOnly_of_other (hfits : IntegerBuilder.Fits s)
    (hall : (unsigned s).all isDigit = false) : NumeralsOnly s := by
  have hread := readInt_eq s
  rw [readDecimal_of_not_all hall, Option.map_none] at hread
  obtain ⟨i, hscan⟩ := IntegerBuilder.scan_wrong hfits hall
  have hfeed := IntegerBuilder.feed_error hs [] hscan
  rw [List.append_nil] at hfeed
  refine ⟨fun v hv _ => ?_, fun _ => ⟨i, _, _, hfeed⟩, fun _ id hid r hr => ?_⟩
  · rw [hread] at hv
    cases hv
  · exact refused_of_scan hid hr hs hscan

end

/-- Only numerals are accepted as numbers, if and only if the line is readable. -/
theorem numeralsOnly_iff (s : Bytes) (hs : NoCrlf s) : NumeralsOnly s ↔ Readable s := by
  constructor
  · exact fun h => ⟨h.ne_nil hs, h.fits hs⟩
  · rintro ⟨hne, hfits⟩
    cases hall : (unsigned s).all isDigit with
    | true => exact numeralsOnly_of_digits hs hne hfits hall
    | false => exact numeralsOnly_of_other hs hfits hall

/-- A letter after the digits. -/
theorem numeralsOnly_letter : NumeralsOnly (ascii "-12x") :=
  (numeralsOnly_iff (ascii "-12x") (by decide)).mpr (by decide)

/-- The empty line and a minus alone are read as a zero; the least `int64_t` overflows. -/
theorem not_numeralsOnly :
    ¬ NumeralsOnly [] ∧ ¬ NumeralsOnly (ascii "-") ∧ ¬ NumeralsOnly (ascii "-9223372036854775808") := by
  refine ⟨?_, ?_, ?_⟩
  · intro h
    obtain ⟨b, rest, what, hthrow⟩ := h.throws (by rintro ⟨v, hv, -⟩; cases hv)
    cases hthrow
  · intro h
    obtain ⟨b, rest, what, hthrow⟩ := h.throws (by rintro ⟨v, hv, -⟩; cases hv)
    cases hthrow
  · intro h
    obtain ⟨b, hdeliver, -⟩ := h.delivers (-2 ^ 63) (by decide) (by decide)
    cases hdeliver

/-! ## Integers as they are written -/

/-- An integer is read as it was written: no sum or product of the loop overflows, and neither
does the last product, of the sign and the number. -/
def DecodesInt (v : Int) : Prop :=
  ∃ b : IntegerBuilder, IntegerBuilder.feed {} (decimalInt v ++ crlf) = ⟨b, [], .ok ()⟩ ∧
    b.replyReady = true ∧ b.reply = .ofInteger v ∧ InInt64 (b.negativeMultiplicator * b.nbr)

theorem unsigned_decimalInt (v : Int) : unsigned (decimalInt v) = decimal v.natAbs := by
  unfold decimalInt
  split
  · rfl
  · have hall := all_isDigit_decimal v.natAbs
    cases hd : decimal v.natAbs with
    | nil => rfl
    | cons c s =>
      rw [hd, List.all_cons, Bool.and_eq_true] at hall
      have hc : c ≠ 45 := by
        rintro rfl
        exact absurd hall.1 (by decide)
      rw [unsigned, if_neg hc]

/-- Every `int64_t` but the least one is read as it was written: the loop adds the digits of the
magnitude up, and that of the least one is no `int64_t`. -/
theorem decodesInt_iff (v : Int) (hv : InInt64 v) : DecodesInt v ↔ v ≠ -2 ^ 63 := by
  have hall : (unsigned (decimalInt v)).all isDigit = true := by
    rw [unsigned_decimalInt]
    exact all_isDigit_decimal _
  have hfits : IntegerBuilder.Fits (decimalInt v) ↔ v.natAbs < 2 ^ 63 := by
    rw [IntegerBuilder.fits_iff_of_all hall, unsigned_decimalInt, decimalValue_decimal]
  constructor
  · rintro ⟨b, hfeed, -⟩ rfl
    obtain ⟨i, hscan⟩ := IntegerBuilder.scan_not_fits (mt hfits.mp (by decide))
    have hthrow := IntegerBuilder.feed_error (noCrlf_decimalInt _) [] hscan
    rw [List.append_nil, hfeed] at hthrow
    cases hthrow
  · intro hne
    obtain ⟨b, hready, hvalue, hreply, hfeed⟩ :=
      IntegerBuilder.feed_line (v := v) (by unfold InInt64 at hv; omega)
    have hline := hfeed []
    rw [List.append_nil] at hline
    refine ⟨b, hline, hready, hreply, ?_⟩
    show InInt64 b.getInteger
    rw [hvalue]
    exact hv

/-- The greatest `int64_t`. -/
theorem decodesInt_greatest : DecodesInt (2 ^ 63 - 1) :=
  (decodesInt_iff (2 ^ 63 - 1) (by decide)).mpr (by decide)

/-- The least `int64_t` overflows. -/
theorem not_decodesInt : ¬ DecodesInt (-2 ^ 63) := by
  rintro ⟨b, hfeed, -⟩
  cases hfeed

end CppRedis
