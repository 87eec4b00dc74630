import CppRedis.Numerals

/-!
# The lengths of bulk strings

`bulk_string_builder` narrows the 64-bit number of its header to an `int`, compares it as a
`std::size_t` and adds to it as an `int`.

* `not_rejected`: no negative length other than that of a null is ever rejected.
* `swallowed`, `indexed`: what happens instead. The builder waits for bytes that never come, or
  indexes its buffer with a negative number.
* `faithful_iff`: a length is that of the bulk string, if and only if it leaves an `int` room
  for the end sequence.
-/

namespace CppRedis

open Text Consumer

/-! ## The header -/

theorem readDecimal_ok {s : Bytes} {n : Nat} (h : readDecimal s = some n) :
    s ≠ [] ∧ s.all isDigit = true ∧ n = decimalValue s := by
  unfold readDecimal at h
  split at h
  · next hs => exact ⟨hs.1, hs.2, (Option.some.inj h).symm⟩
  · cases h

/-- The lines that denote a number. -/
theorem readInt_ok {s : Bytes} {v : Int} (h : readInt s = some v) :
    (unsigned s).all isDigit = true ∧ v = sign s * decimalValue (unsigned s) := by
  rw [readInt_eq] at h
  obtain ⟨n, hn, rfl⟩ := Option.map_eq_some_iff.mp h
  obtain ⟨-, hall, rfl⟩ := readDecimal_ok hn
  exact ⟨hall, rfl⟩

theorem noCrlf_of_readInt {s : Bytes} {v : Int} (h : readInt s = some v) : NoCrlf s := by
  have hcr := not_mem_of_all_isDigit (readInt_ok h).1 (show isDigit cr = false by decide)
  refine noCrlf_of_not_mem ?_
  cases s with
  | nil => exact hcr
  | cons c s =>
    rw [unsigned] at hcr
    split at hcr
    · next hc =>
      rw [hc]
      intro hmem
      rcases List.mem_cons.mp hmem with hminus | hmem
      · exact absurd hminus (by decide)
      · exact hcr hmem
    · exact hcr

theorem fits_of_readInt {s : Bytes} {v : Int} (h : readInt s = some v) :
    IntegerBuilder.Fits s ↔ -2 ^ 63 < v ∧ v < 2 ^ 63 := by
  obtain ⟨hall, rfl⟩ := readInt_ok h
  rw [IntegerBuilder.fits_iff_of_all hall]
  unfold sign
  split <;> omega

/-! ### Narrowing -/

theorem ne_null {size : Int32} (h : size.toInt ≠ -1) : size ≠ -1 := by
  rintro rfl
  exact h rfl

/-- A length that is an `int` stays the same, and is no null. -/
theorem narrow_of_lt {v : Int} {n : Nat} (hv : v = n) (h : n < 2 ^ 31) :
    (Int32.ofInt v).toInt = n ∧ Int32.ofInt v ≠ -1 := by
  subst hv
  have hsize : (Int32.ofInt n).toInt = n := Int32.toInt_ofInt_of_le (by omega) (by omega)
  exact ⟨hsize, ne_null (by rw [hsize]; omega)⟩

namespace BulkStringBuilder

theorem feed_header {s : Bytes} {v : Int} (h : readInt s = some v) (hv : -2 ^ 63 < v ∧ v < 2 ^ 63) :
    ∃ i : IntegerBuilder, i.replyReady = true ∧ i.getInteger = v ∧
      ∀ rest, feed {} (s ++ crlf ++ rest) = feedPayload (setSize {} i) rest := by
  obtain ⟨hall, rfl⟩ := readInt_ok h
  obtain ⟨i, hready, hvalue, -, hfeed⟩ := IntegerBuilder.feed_number (noCrlf_of_readInt h)
    ((fits_of_readInt h).mpr hv) hall
  refine ⟨i, hready, hvalue, ?_⟩
  intro rest
  have hfetch : fetchSize {} (s ++ crlf ++ rest) = ⟨setSize {} i, rest, .ok true⟩ := by
    unfold fetchSize fetchHeader
    rw [if_neg Bool.false_ne_true, hfeed]
    simp only [hready, Bool.true_eq_false, if_false]
  rw [feed, if_neg Bool.false_ne_true]
  simp only [andThen, hfetch]

/-- A length that is no null goes on to the payload. -/
theorem feedPayload_setSize {i : IntegerBuilder} (h : Int32.ofInt i.getInteger ≠ -1) (rest : Bytes) :
    feedPayload (setSize {} i) rest =
      fetchStr { intBuilder := i, strSize := .ofInt i.getInteger } rest := by
  rw [setSize_of_ne h, feedPayload, if_neg Bool.false_ne_true]

/-! ### Negative lengths -/

section Negative

variable {b : BulkStringBuilder} {rest : Bytes}

/-- As a `std::size_t` the length is so great that its end wraps around to the front of the
buffer, and as an `int` it is an index in front of the buffer. -/
theorem fetchStr_indexes (h : b.strSize.toInt = -2) :
    b.fetchStr rest = ⟨b, rest, .error .outOfRange⟩ := by
  have hneed : ¬ rest.length < (toSize b.strSize.toInt + 2) % 2 ^ 64 := by
    rw [h]
    exact Nat.not_lt_zero _
  have hindex : checkEndSequence b.strSize.toInt rest = .error .outOfRange := by
    rw [h]
    rfl
  unfold fetchStr
  rw [if_neg hneed]
  simp only [hindex]

/-- The end does not wrap around: the length is greater than that of any buffer. -/
theorem fetchStr_waits (h : b.strSize.toInt < -2) (hrest : rest.length < 2 ^ 63) :
    b.fetchStr rest = ⟨b, rest, .ok ()⟩ := by
  have hleast := b.strSize.le_toInt
  refine fetchStr_wait ?_
  unfold toSize
  omega

end Negative

end BulkStringBuilder

open BulkStringBuilder

section Header

variable {r : ReplyBuilder} {s : Bytes} {v : Int}

/-- The header throws a `redis_error` wherever it is cut and whatever follows it. -/
def Rejected (r : ReplyBuilder) (s : Bytes) : Prop :=
  ∀ chunks rest, chunks.flatten = s ++ crlf ++ rest →
    ∃ what, (r.feedAll chunks).2 = .error (.redisError what)

theorem header_ne_nil (s : Bytes) : s ++ crlf ≠ [] := by
  simp [crlf]

/-- What becomes of the header of a negative length while nothing follows it. -/
def headerOutcome (v : Int) : Except Fault Unit :=
  if v ≤ -2 ^ 63 then .error .signedOverflow
  else if (Int32.ofInt v).toInt = -2 then .error .outOfRange
  else .ok ()

/-- How the header of a bulk string is taken, if it does not overflow. -/
theorem feed_bulk_header (hs : readInt s = some v) (hv : -2 ^ 63 < v ∧ v < 2 ^ 63) :
    ∃ i : IntegerBuilder, i.getInteger = v ∧ ∀ rest, (Builder.bulkString {}).feed (s ++ crlf ++ rest) =
      (feedPayload (setSize {} i) rest).map .bulkString := by
  obtain ⟨i, -, hvalue, hfeed⟩ := feed_header hs hv
  exact ⟨i, hvalue, fun rest => by rw [Builder.feed_bulkString, hfeed]⟩

/-- How it is taken if it does. -/
theorem feed_bulk_overflow (hs : readInt s = some v) (hv : ¬ (-2 ^ 63 < v ∧ v < 2 ^ 63))
    (rest : Bytes) : ∃ c, (Builder.bulkString {}).feed (s ++ crlf ++ rest) =
      ⟨c, s ++ crlf ++ rest, .error .signedOverflow⟩ := by
  obtain ⟨i, hscan⟩ := IntegerBuilder.scan_not_fits (mt (fits_of_readInt hs).mp hv)
  obtain ⟨c, c', hc, hfeed⟩ := feed_header_error (show (36 : Byte) ∈ [58, 36, 42] by decide)
    (IntegerBuilder.feed_error (noCrlf_of_readInt hs) rest hscan)
  cases hc
  exact ⟨c', hfeed⟩

/-- Without a payload a length waits, unless it is the one that wraps around. -/
theorem feedPayload_nil {i : IntegerBuilder} (h : (Int32.ofInt i.getInteger).toInt ≠ -2) :
    ∃ b, feedPayload (setSize {} i) [] = ⟨b, [], .ok ()⟩ := by
  by_cases hnull : Int32.ofInt i.getInteger = -1
  · have hset : setSize {} i = buildReply
        { intBuilder := i, strSize := .ofInt i.getInteger, isNull := true } := if_pos hnull
    rw [hset]
    exact ⟨_, if_pos (replyReady_buildReply _)⟩
  · rw [feedPayload_setSize hnull]
    refine ⟨_, fetchStr_wait ?_⟩
    have hleast := (Int32.ofInt i.getInteger).le_toInt
    have hgreatest := (Int32.ofInt i.getInteger).toInt_lt
    dsimp only
    rw [List.length_nil]
    unfold toSize
    omega

/-- A length that is narrowed to -2 makes an index of its own. -/
theorem feedPayload_indexes {i : IntegerBuilder} (h : (Int32.ofInt i.getInteger).toInt = -2)
    (rest : Bytes) : ∃ b, feedPayload (setSize {} i) rest = ⟨b, rest, .error .outOfRange⟩ := by
  have hnull : Int32.ofInt i.getInteger ≠ -1 := ne_null (by omega)
  rw [feedPayload_setSize hnull]
  exact ⟨_, fetchStr_indexes h⟩

/-- A length that is narrowed to less waits for more bytes than there are. -/
theorem feedPayload_waits {i : IntegerBuilder} (h : (Int32.ofInt i.getInteger).toInt < -2)
    {rest : Bytes} (hrest : rest.length < 2 ^ 63) :
    ∃ b, b.replyReady = false ∧ feedPayload (setSize {} i) rest = ⟨b, rest, .ok ()⟩ := by
  have hnull : Int32.ofInt i.getInteger ≠ -1 := ne_null (by omega)
  refine ⟨{ intBuilder := i, strSize := .ofInt i.getInteger }, rfl, ?_⟩
  rw [feedPayload_setSize hnull]
  exact fetchStr_waits h hrest

theorem feed_negative (hr : r.AtHeader 36) (hs : readInt s = some v) (hv : v < -1) :
    (r.feed (s ++ crlf)).2 = headerOutcome v := by
  have hnil := header_ne_nil s
  unfold headerOutcome
  by_cases hgreat : v ≤ -2 ^ 63
  · obtain ⟨c, hfeed⟩ := feed_bulk_overflow hs (by omega) []
    rw [List.append_nil] at hfeed
    obtain ⟨r', hr', -⟩ := hr.feed_error hnil rfl hfeed
    rw [hr', if_pos hgreat]
  · obtain ⟨i, rfl, hfeed⟩ := feed_bulk_header hs (by omega)
    have hline := hfeed []
    rw [List.append_nil] at hline
    rw [if_neg hgreat]
    by_cases hwrap : (Int32.ofInt i.getInteger).toInt = -2
    · obtain ⟨b, hb⟩ := feedPayload_indexes hwrap []
      rw [hb] at hline
      obtain ⟨r', hr', -⟩ := hr.feed_error hnil rfl hline
      rw [hr', if_pos hwrap]
    · obtain ⟨b, hb⟩ := feedPayload_nil hwrap
      rw [hb] at hline
      obtain ⟨r', hr'⟩ := hr.feed_done hnil rfl hline
      rw [hr', if_neg hwrap]

/-- No negative length is rejected, wherever in the stream the bulk string stands. -/
theorem not_rejected (r : ReplyBuilder) (hr : r.AtHeader 36) (s : Bytes) (v : Int)
    (hs : readInt s = some v) (hv : v < -1) : ¬ Rejected r s := by
  intro h
  obtain ⟨what, hthrow⟩ := h [s ++ crlf] [] (by simp)
  have hresult := (hr.feedAll [s ++ crlf]).1
  rw [List.flatten_singleton, hthrow, feed_negative hr hs hv] at hresult
  unfold headerOutcome at hresult
  split at hresult
  · cases hresult
  · split at hresult <;> cases hresult

/-- A length that is narrowed to less than -2 takes all that follows for its payload. -/
theorem swallowed (hr : r.AtHeader 36) (hs : readInt s = some v) (hv : -2 ^ 63 < v ∧ v < 2 ^ 63)
    (hnarrow : (Int32.ofInt v).toInt < -2) {chunks : List Bytes} {rest : Bytes}
    (hchunks : chunks.flatten = s ++ crlf ++ rest) (hrest : rest.length < 2 ^ 63) :
    (r.feedAll chunks).2 = .ok () ∧
      (r.feedAll chunks).1.availableReplies = r.availableReplies := by
  obtain ⟨i, rfl, hfeed⟩ := feed_bulk_header hs hv
  obtain ⟨b, hwait, hb⟩ := feedPayload_waits hnarrow hrest
  have hline := hfeed rest
  rw [hb] at hline
  obtain ⟨r', hr', hkept⟩ := hr.feed_wait (line_ne_nil s rest) rfl hline hwait
  obtain ⟨hresult, hreplies⟩ := hr.feedAll chunks
  rw [hchunks, hr'] at hresult hreplies
  exact ⟨hresult, hreplies.trans hkept⟩

/-- A length that is narrowed to -2 is an index in front of the buffer. -/
theorem indexed (hr : r.AtHeader 36) (hs : readInt s = some v) (hv : -2 ^ 63 < v ∧ v < 2 ^ 63)
    (hnarrow : (Int32.ofInt v).toInt = -2) {chunks : List Bytes} {rest : Bytes}
    (hchunks : chunks.flatten = s ++ crlf ++ rest) :
    (r.feedAll chunks).2 = .error .outOfRange := by
  obtain ⟨i, rfl, hfeed⟩ := feed_bulk_header hs hv
  have hline := hfeed rest
  obtain ⟨b, hb⟩ := feedPayload_indexes hnarrow rest
  rw [hb] at hline
  obtain ⟨r', hr', -⟩ := hr.feed_error (line_ne_nil s rest) rfl hline
  have hresult := (hr.feedAll chunks).1
  rw [hchunks, hr'] at hresult
  exact hresult

/-- A bulk string in nested arrays. -/
theorem not_rejected_nested :
    ¬ Rejected (({} : ReplyBuilder).feed (ascii "*1\r\n*2\r\n:7\r\n$")).1 (ascii "-7") := by
  have hr : (({} : ReplyBuilder).feed (ascii "*1\r\n*2\r\n:7\r\n$")).1.AtHeader 36 :=
    ReplyBuilder.atHeader_of_feed (s := ascii "*1\r\n*2\r\n:7\r\n$") (Prod.ext rfl rfl) rfl rfl rfl
  exact not_rejected _ hr (ascii "-7") (-7) (by decide) (by decide)

/-- A length of -2 is used as an index; one of -3 swallows the replies that follow. -/
theorem not_rejected_wrapped :
    (({} : ReplyBuilder).feedAll [ascii "$-2\r\n"]).2 = .error .outOfRange ∧
      (({} : ReplyBuilder).feedAll [ascii "$-3\r\n", ascii "+OK\r\n"]).2 = .ok () ∧
      (({} : ReplyBuilder).feedAll [ascii "$-3\r\n", ascii "+OK\r\n"]).1.availableReplies.length = 0 := by
  decide

end Header

/-! ## The length of the bulk string -/

namespace BulkStringBuilder

theorem checkEndSequence_bytes {x : Bytes} {n : Int} {c d : Byte} (hc : byteAt x n = .ok c)
    (hnext : checkInt32 (n + 1) = .ok (n + 1)) (hd : byteAt x (n + 1) = .ok d) :
    checkEndSequence n x =
      if [c, d] = crlf then .ok () else .error (.redisError "Wrong ending sequence") := by
  unfold checkEndSequence crlf
  rw [hc]
  by_cases hcr : c = cr
  · by_cases hlf : d = lf
    · simp [bind, Except.bind, hnext, hd, hcr, hlf, pure, Except.pure]
    · simp [bind, Except.bind, hnext, hd, hcr, hlf, throw, throwThe, MonadExceptOf.throw]
  · simp [bind, Except.bind, hcr, throw, throwThe, MonadExceptOf.throw]

theorem byteAt_getElem {x : Bytes} {n : Nat} (hn : n < x.length) : byteAt x (n : Int) = .ok x[n] := by
  show byteAt x (.ofNat n) = .ok x[n]
  simp only [byteAt, List.getElem?_eq_getElem hn]

theorem checkInt32_ok_of {v : Int} (h : -2 ^ 31 ≤ v ∧ v < 2 ^ 31) : checkInt32 v = .ok v :=
  if_pos h

/-- The two bytes after the payload, if they have arrived and their indices are `int`s. -/
theorem checkEndSequence_arrived {x : Bytes} {n : Nat} (hn : n < 2 ^ 31 - 1) (hx : n + 2 ≤ x.length) :
    checkEndSequence n x = if (x.drop n).take 2 = crlf then .ok ()
      else .error (.redisError "Wrong ending sequence") := by
  have hfirst : n < x.length := by omega
  have hsecond : n + 1 < x.length := by omega
  have htake : (x.drop n).take 2 = [x[n], x[n + 1]] := by
    rw [List.drop_eq_getElem_cons hfirst, List.drop_eq_getElem_cons hsecond]
    rfl
  rw [htake]
  exact checkEndSequence_bytes (byteAt_getElem hfirst) (checkInt32_ok_of (by omega))
    (byteAt_getElem hsecond)

/-- The index of the line feed is no `int`. -/
theorem checkEndSequence_overflows {x : Bytes} {n : Int} {e : Fault} (hc : byteAt x n = .ok cr)
    (hnext : checkInt32 (n + 1) = .error e) : checkEndSequence n x = .error e := by
  unfold checkEndSequence
  rw [hc]
  simp [bind, Except.bind, hnext]

section Payload

variable {b : BulkStringBuilder} {n : Nat} {x : Bytes}

/-- The payload and its end sequence, if the length leaves an `int` room for both. -/
theorem fetchStr_payload (hsize : b.strSize.toInt = n) (hn : n ≤ 2 ^ 31 - 3)
    (hend : (x.drop n).take 2 = crlf) (hx : n + 2 ≤ x.length) :
    b.fetchStr x = ⟨{ b with str := x.take n }.buildReply, x.drop (n + 2), .ok ()⟩ := by
  obtain ⟨-, hlength, hneed⟩ := payload_length hsize
  have hcheck : checkEndSequence b.strSize.toInt x = .ok () := by
    rw [hsize, checkEndSequence_arrived (by omega) hx, if_pos hend]
  have hsum : checkInt32 (b.strSize.toInt + 2) = .ok (n + 2 : Nat) := by
    rw [hsize]
    exact checkInt32_ok_of (v := (n + 2 : Nat)) (by omega)
  have hdrop : toSize ((n + 2 : Nat) : Int) = n + 2 := by
    unfold toSize
    omega
  unfold fetchStr
  rw [hneed, if_neg (Nat.not_lt.mpr hx), hcheck]
  simp only [hsum, hlength, hdrop]

theorem fetchStr_wrongEnd (hsize : b.strSize.toInt = n) (hn : n ≤ 2 ^ 31 - 3)
    (hend : (x.drop n).take 2 ≠ crlf) (hx : n + 2 ≤ x.length) :
    b.fetchStr x = ⟨b, x, .error (.redisError "Wrong ending sequence")⟩ := by
  obtain ⟨-, -, hneed⟩ := payload_length hsize
  have hcheck : checkEndSequence b.strSize.toInt x =
      .error (.redisError "Wrong ending sequence") := by
    rw [hsize, checkEndSequence_arrived (by omega) hx, if_neg hend]
  unfold fetchStr
  rw [hneed, if_neg (Nat.not_lt.mpr hx), hcheck]

/-- One of the two sums overflows, if the length is an `int` that leaves no room. -/
theorem fetchStr_overflows (hsize : b.strSize.toInt = n) (hn : 2 ^ 31 - 3 < n)
    (hend : x.drop n = crlf) :
    (b.fetchStr x).result = .error .signedOverflow := by
  obtain ⟨hlt, -, hneed⟩ := payload_length hsize
  have hx : n + 2 ≤ x.length := by
    have hlength := congrArg List.length hend
    rw [List.length_drop] at hlength
    change x.length - n = 2 at hlength
    omega
  have hover {v : Int} (h : 2 ^ 31 ≤ v) : checkInt32 v = .error .signedOverflow :=
    if_neg (by omega)
  have hfirst : n < x.length := by omega
  unfold fetchStr
  rw [hneed, if_neg (Nat.not_lt.mpr hx), hsize]
  rcases Nat.lt_or_ge n (2 ^ 31 - 1) with hless | hgreatest
  · have hcheck : checkEndSequence n x = .ok () := by
      rw [checkEndSequence_arrived hless hx, hend]
      rfl
    rw [hcheck]
    simp only [hsize, hover (show 2 ^ 31 ≤ (n : Int) + 2 by omega)]
  · have hcr : byteAt x n = .ok cr := by
      rw [List.drop_eq_getElem_cons hfirst] at hend
      rw [byteAt_getElem hfirst, (List.cons.inj hend).1]
    rw [checkEndSequence_overflows hcr (hover (by omega))]

end Payload

end BulkStringBuilder

open BulkStringBuilder

/-- What a bulk string of the length `n` makes of its header and the bytes `rest`: `t` is what
the calls leave behind. -/
structure Faithful (n : Nat) (rest : Bytes) (t : Turn BulkStringBuilder Byte Fault Unit) : Prop where
  narrowed : t.state.intBuilder.replyReady = true → t.state.strSize.toInt = n
  noOverflow : t.result ≠ .error .signedOverflow
  inside : t.result ≠ .error .outOfRange
  ready : t.state.replyReady = true → t.result = .ok () ∧ n + 2 ≤ rest.length ∧
    t.state.reply = .ofString (rest.take n) .bulkString ∧ t.rest = rest.drop (n + 2)
  completes : (rest.drop n).take 2 = crlf → t.result = .ok () ∧ t.state.replyReady = true

/-- Wherever the header and what follows it are cut. -/
def LengthFaithful (s : Bytes) (n : Nat) : Prop :=
  ∀ chunks rest, chunks.flatten = s ++ crlf ++ rest → Faithful n rest (feedChunks feed {} [] chunks)

theorem feedChunks_bulk {chunks : List Bytes} {x : Bytes} (h : chunks.flatten = x) :
    (feedChunks feed {} [] chunks).state = (feed {} x).state ∧
      (feedChunks feed {} [] chunks).result = (feed {} x).result ∧
      ((feedChunks feed {} [] chunks).result = .ok () →
        (feedChunks feed {} [] chunks).rest = (feed {} x).rest) := by
  subst h
  have hdone (b : BulkStringBuilder) (hb : b.replyReady = true) (x : Bytes) :
      b.feed x = ⟨b, x, .ok ()⟩ := if_pos hb
  exact feedChunks_flatten BulkStringBuilder.resumable hdone chunks rfl

/-- One call is as good as one for each chunk. -/
theorem Faithful.ofFeed {n : Nat} {chunks : List Bytes} {x rest : Bytes} (hx : chunks.flatten = x)
    (h : Faithful n rest (feed {} x)) : Faithful n rest (feedChunks feed {} [] chunks) := by
  obtain ⟨hstate, hresult, hrest⟩ := feedChunks_bulk hx
  refine ⟨?_, ?_, ?_, ?_, ?_⟩
  · rw [hstate]
    exact h.narrowed
  · rw [hresult]
    exact h.noOverflow
  · rw [hresult]
    exact h.inside
  · intro hready
    rw [hstate] at hready ⊢
    obtain ⟨hok, harrived, hreply, hleft⟩ := h.ready hready
    exact ⟨hresult.trans hok, harrived, hreply, (hrest (hresult.trans hok)).trans hleft⟩
  · rw [hstate, hresult]
    exact h.completes

/-- A builder whose length leaves an `int` room for the end sequence. -/
theorem fetchStr_faithful {b : BulkStringBuilder} {n : Nat} (hnew : b.isNull = false)
    (hwaiting : b.replyReady = false) (hreply : b.reply = {}) (hsize : b.strSize.toInt = n)
    (hn : n ≤ 2 ^ 31 - 3) (rest : Bytes) : Faithful n rest (b.fetchStr rest) := by
  obtain ⟨-, -, hneed⟩ := payload_length hsize
  have hnot : ¬ b.replyReady = true := by
    rw [hwaiting]
    exact Bool.false_ne_true
  by_cases harrived : n + 2 ≤ rest.length
  · by_cases hend : (rest.drop n).take 2 = crlf
    · have hbuilt : { b with str := rest.take n }.buildReply =
          { b with
            str := rest.take n
            reply := .ofString (rest.take n) .bulkString
            replyReady := true } := by
        unfold buildReply
        rw [if_neg (by rw [hnew]; exact Bool.false_ne_true), hreply]
        rfl
      rw [fetchStr_payload hsize hn hend harrived, hbuilt]
      exact ⟨fun _ => hsize, nofun, nofun, fun _ => ⟨rfl, harrived, rfl, rfl⟩, fun _ => ⟨rfl, rfl⟩⟩
    · rw [fetchStr_wrongEnd hsize hn hend harrived]
      exact ⟨fun _ => hsize, nofun, nofun, fun h => absurd h hnot, fun h => absurd h hend⟩
  · rw [fetchStr_wait (by rw [hneed]; exact Nat.lt_of_not_le harrived)]
    refine ⟨fun _ => hsize, nofun, nofun, fun h => absurd h hnot, fun hend => ?_⟩
    have hlength := congrArg List.length hend
    rw [List.length_take, List.length_drop] at hlength
    change min 2 (rest.length - n) = 2 at hlength
    omega

/-- A length is the length of the bulk string, if and only if it is an `int` that leaves room
for the end sequence. -/
theorem lengthFaithful_iff (s : Bytes) (n : Nat) (hs : readInt s = some (n : Int)) (hn : n < 2 ^ 63) :
    LengthFaithful s n ↔ n ≤ 2 ^ 31 - 3 := by
  obtain ⟨i, hready, hvalue, hfeed⟩ := feed_header hs ⟨by omega, by omega⟩
  constructor
  · intro h
    by_contra hgreat
    by_cases hint : n < 2 ^ 31
    · -- the payload arrives, and a sum overflows
      obtain ⟨hsize, hnull⟩ := narrow_of_lt hvalue hint
      let rest : Bytes := List.replicate n 0 ++ crlf
      have hend : rest.drop n = crlf := List.drop_left' List.length_replicate
      have hflatten : [s ++ crlf ++ rest].flatten = s ++ crlf ++ rest := List.flatten_singleton
      refine (h [s ++ crlf ++ rest] rest hflatten).noOverflow ?_
      rw [(feedChunks_bulk hflatten).2.1, hfeed, feedPayload_setSize hnull]
      exact fetchStr_overflows hsize (by omega) hend
    · -- the header alone is narrowed to another length
      have hflatten : [s ++ crlf].flatten = s ++ crlf ++ [] := by simp
      have hnarrowed := (h [s ++ crlf] [] hflatten).narrowed
      rw [(feedChunks_bulk hflatten).1, hfeed, intBuilder_feedPayload, intBuilder_setSize] at hnarrowed
      have hlt := (feedPayload (setSize {} i) []).state.strSize.toInt_lt
      rw [hnarrowed hready] at hlt
      omega
  · intro hfits chunks rest hchunks
    obtain ⟨hsize, hnull⟩ := narrow_of_lt hvalue (show n < 2 ^ 31 by omega)
    refine .ofFeed hchunks ?_
    rw [hfeed, feedPayload_setSize hnull]
    exact fetchStr_faithful rfl rfl rfl hsize hfits rest

/-- A length with a leading zero. -/
theorem lengthFaithful_five : LengthFaithful (ascii "05") 5 :=
  (lengthFaithful_iff (ascii "05") 5 (by decide) (by decide)).mpr (by decide)

/-- A length of `2 ^ 32` is narrowed to zero: the bulk string is complete at once, and empty. -/
theorem not_lengthFaithful :
    ¬ LengthFaithful (ascii "4294967296") (2 ^ 32) := by
  intro h
  have hready := (h [ascii "4294967296\r\n\r\n"] crlf (by decide)).ready (by decide)
  exact absurd hready.2.1 (by decide)

end CppRedis
