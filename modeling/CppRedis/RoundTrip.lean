import CppRedis.Chunking

/-!
# The round trip of the reply format

`Value` is a value of the RESP2 reply format, `Value.encode` its encoding, and
`Value.toReply` the `Reply` that stands for it. A new `reply_builder` that is fed
the encodings of some values, cut anywhere, makes available their replies and
nothing else, and is left as it was (`feedAll_encodeAll`).

The unit of the proof is `Decodes code reply`: the builder chosen by the first
byte of `code` reads the other bytes, leaves whatever follows them, and is then
ready with `reply`.
-/

namespace CppRedis

open Text Consumer

/-! ## The format -/

/-- A value of the RESP2 reply format. The two nulls differ in their encoding only. -/
inductive Value
  | simpleString (s : Bytes)
  | error (s : Bytes)
  | integer (v : Int)
  | bulkString (s : Bytes)
  | nullBulk
  | nullArray
  | array (rows : List Value)

namespace Value

/-- A type byte and a line. -/
def line (id : Byte) (s : Bytes) : Bytes :=
  id :: (s ++ crlf)

mutual

def encode : Value → Bytes
  | .simpleString s => line 43 s
  | .error s => line 45 s
  | .integer v => line 58 (decimalInt v)
  | .bulkString s => line 36 (decimalInt s.length) ++ s ++ crlf
  | .nullBulk => line 36 (decimalInt (-1))
  | .nullArray => line 42 (decimalInt (-1))
  | .array rows => line 42 (decimalInt rows.length) ++ encodeAll rows

def encodeAll : List Value → Bytes
  | [] => []
  | r :: rows => r.encode ++ encodeAll rows

end

mutual

/-- The values that have an encoding the format allows and a client can hold: a
line has no CRLF inside, an integer fits in 64 bits, the length of a bulk string
and of its end sequence is an `int`, and a `std::vector` has less than `2 ^ 63`
elements. -/
def WellFormed : Value → Prop
  | .simpleString s => NoCrlf s
  | .error s => NoCrlf s
  | .integer v => -2 ^ 63 < v ∧ v < 2 ^ 63
  | .bulkString s => s.length < 2 ^ 31 - 2
  | .nullBulk => True
  | .nullArray => True
  | .array rows => rows.length < 2 ^ 63 ∧ AllWellFormed rows

def AllWellFormed : List Value → Prop
  | [] => True
  | r :: rows => r.WellFormed ∧ AllWellFormed rows

end

mutual

/-- The reply that stands for a value. -/
def toReply : Value → Reply
  | .simpleString s => .ofString s .simpleString
  | .error s => .ofString s .error
  | .integer v => .ofInteger v
  | .bulkString s => .ofString s .bulkString
  | .nullBulk => {}
  | .nullArray => {}
  | .array rows => .ofRows (toReplies rows)

def toReplies : List Value → List Reply
  | [] => []
  | r :: rows => r.toReply :: toReplies rows

end

theorem toReplies_eq_map (rs : List Value) : toReplies rs = rs.map toReply := by
  induction rs with
  | nil => rfl
  | cons r rs ih => rw [toReplies, ih, List.map_cons]

theorem encodeAll_eq_flatten (rs : List Value) : encodeAll rs = (rs.map encode).flatten := by
  induction rs with
  | nil => rfl
  | cons r rs ih => rw [encodeAll, ih, List.map_cons, List.flatten_cons]

theorem allWellFormed_iff (rs : List Value) : AllWellFormed rs ↔ ∀ r ∈ rs, r.WellFormed := by
  induction rs with
  | nil => simp [AllWellFormed]
  | cons r rs ih => simp [AllWellFormed, ih]

end Value

/-! ## Lines -/

theorem findCrlf_line {s : Bytes} (h : NoCrlf s) (rest : Bytes) :
    findCrlf (s ++ crlf ++ rest) = some s.length :=
  findCrlf_of_noCrlf rest h

theorem take_line (s rest : Bytes) : (s ++ crlf ++ rest).take s.length = s := by
  rw [List.append_assoc]
  exact List.take_left

theorem drop_line (s rest : Bytes) : (s ++ crlf ++ rest).drop (s.length + 2) = rest := by
  have : s.length + 2 = (s ++ crlf).length := by simp [crlf]
  rw [this]
  exact List.drop_left

theorem SimpleStringBuilder.feed_line {s : Bytes} (h : NoCrlf s) (rest : Bytes) :
    SimpleStringBuilder.feed {} (s ++ crlf ++ rest) =
      ⟨{ str := s, replyReady := true, reply := .ofString s .simpleString }, rest, .ok ()⟩ := by
  unfold feed
  rw [findCrlf_line h]
  simp only [take_line, drop_line]
  rfl

/-! ## Integers -/

namespace IntegerBuilder

theorem scan_append (b : IntegerBuilder) (i : Nat) (x y : Bytes) :
    b.scan i (x ++ y) =
      match b.scan i x with
      | (b, .error e) => (b, .error e)
      | (b, .ok ()) => b.scan (i + x.length) y := by
  induction x generalizing b i with
  | nil => rfl
  | cons c x ih =>
    simp only [List.cons_append, scan, List.length_cons]
    split
    · rw [ih, Nat.add_assoc, Nat.add_comm 1]
    · split
      · rfl
      · split
        · rfl
        · split
          · rfl
          · rw [ih, Nat.add_assoc, Nat.add_comm 1]

/-- One digit more. -/
theorem scan_digit (b : IntegerBuilder) (i : Nat) {n d : Nat} (hb : b.nbr = n) (hd : d < 10)
    (h : n * 10 + d < 2 ^ 63) :
    b.scan i [digit d] = ({ b with nbr := (n * 10 + d : Nat) }, .ok ()) := by
  have hminus : digit d ≠ minus := by
    intro hm
    have := isDigit_digit hd
    rw [hm] at this
    exact absurd this (by decide)
  have hmul : checkInt64 (b.nbr * 10) = .ok (b.nbr * 10) := if_pos (by omega)
  have hadd : checkInt64 (b.nbr * 10 + d) = .ok (b.nbr * 10 + d) := if_pos (by omega)
  simp only [scan, hminus, isDigit_digit hd, digitValue_digit hd, hmul, hadd, and_false, if_false,
    Bool.true_eq_false]
  rw [hb]
  rfl

/-- The digits of a numeral, read from where no digit was read yet. -/
theorem scan_decimal (n : Nat) (h : n < 2 ^ 63) (b : IntegerBuilder) (i : Nat) (hb : b.nbr = 0) :
    b.scan i (decimal n) = ({ b with nbr := n }, .ok ()) := by
  induction n using Nat.strong_induction_on with
  | _ n ih =>
    rcases Nat.lt_or_ge n 10 with hn | hn
    · rw [decimal_of_lt hn, scan_digit b i (show b.nbr = (0 : Nat) from hb) hn (by omega)]
      simp
    · rw [decimal_of_ge hn, scan_append, ih (n / 10) (by omega) (by omega)]
      have hlast : n / 10 * 10 + n % 10 < 2 ^ 63 := by omega
      have := scan_digit { b with nbr := (n / 10 : Nat) } (i + (decimal (n / 10)).length)
        rfl (Nat.mod_lt n (by decide)) hlast
      simp only at this ⊢
      rw [this, Nat.div_add_mod']

/-- The minus of a negative number is read before its digits. -/
theorem scan_decimalInt {v : Int} (h : -2 ^ 63 < v ∧ v < 2 ^ 63) :
    scan {} 0 (decimalInt v) =
      ({ nbr := v.natAbs, negativeMultiplicator := if v < 0 then -1 else 1 }, .ok ()) := by
  have hn : v.natAbs < 2 ^ 63 := by omega
  unfold decimalInt
  split
  · rw [scan, if_pos ⟨rfl, rfl, rfl⟩, scan_decimal _ hn _ _ rfl]
  · rw [scan_decimal _ hn _ _ rfl]

/-- An integer builder reads the line of an integer. -/
theorem feed_line {v : Int} (h : -2 ^ 63 < v ∧ v < 2 ^ 63) :
    ∃ b : IntegerBuilder, b.replyReady = true ∧ b.getInteger = v ∧ b.reply = .ofInteger v ∧
      ∀ rest, feed {} (decimalInt v ++ crlf ++ rest) = ⟨b, rest, .ok ()⟩ := by
  have hv : getInteger { nbr := v.natAbs, negativeMultiplicator := if v < 0 then -1 else 1 } = v := by
    unfold getInteger
    dsimp only
    split <;> omega
  refine ⟨{ nbr := v.natAbs
            negativeMultiplicator := if v < 0 then -1 else 1
            replyReady := true
            reply := .ofInteger v }, rfl, hv, rfl, ?_⟩
  intro rest
  unfold feed
  rw [findCrlf_line (noCrlf_decimalInt v)]
  simp only [take_line, drop_line, scan_decimalInt h, hv]
  rfl

end IntegerBuilder

theorem fetchHeader_line {τ : Type} (store known : IntegerBuilder → τ) {v : Int}
    (h : -2 ^ 63 < v ∧ v < 2 ^ 63) :
    ∃ i : IntegerBuilder, i.getInteger = v ∧
      ∀ rest, fetchHeader {} store known (decimalInt v ++ crlf ++ rest) =
        ⟨known i, rest, .ok true⟩ := by
  obtain ⟨i, hr, hv, -, hf⟩ := IntegerBuilder.feed_line h
  refine ⟨i, hv, ?_⟩
  intro rest
  simp only [fetchHeader, hf, hr, Bool.true_eq_false, if_false]

/-! ## Bulk strings -/

namespace BulkStringBuilder

theorem checkEndSequence_payload (s rest : Bytes) (h : s.length < 2 ^ 31 - 2) :
    checkEndSequence s.length (s ++ crlf ++ rest) = .ok () := by
  have h0 : byteAt (s ++ crlf ++ rest) (s.length : Nat) = .ok cr := by
    simp [byteAt, crlf]
  have h1 : byteAt (s ++ crlf ++ rest) (s.length + 1 : Nat) = .ok lf := by
    simp [byteAt, crlf]
  have hnext : checkInt32 ((s.length : Int) + 1) = .ok ((s.length + 1 : Nat) : Int) :=
    if_pos (by omega)
  unfold checkEndSequence
  rw [h0, hnext]
  simp only [bind, Except.bind, h1, ne_eq, not_true_eq_false, if_false]
  rfl

/-- The payload may hold any bytes: it is measured, not searched. -/
theorem feedPayload_payload {b : BulkStringBuilder} {s : Bytes} (hb : b.replyReady = false)
    (hnull : b.isNull = false) (hsize : b.strSize.toInt = s.length) (h : s.length < 2 ^ 31 - 2)
    (rest : Bytes) :
    b.feedPayload (s ++ crlf ++ rest) =
      ⟨{ b with str := s, replyReady := true, reply := b.reply.setString s .bulkString }, rest,
        .ok ()⟩ := by
  obtain ⟨-, hs, hneed⟩ := payload_length hsize
  have harrived : ¬ (s ++ crlf ++ rest).length < s.length + 2 := by
    simp [crlf]
  have hnext : checkInt32 ((s.length : Int) + 2) = .ok ((s.length + 2 : Nat) : Int) :=
    if_pos (by omega)
  have hdrop : toSize ((s.length + 2 : Nat) : Int) = s.length + 2 := by
    unfold toSize
    omega
  unfold feedPayload fetchStr
  rw [hs] at hneed
  rw [hb, hs, hneed, if_neg harrived, hsize, checkEndSequence_payload s rest h]
  simp only [Bool.false_eq_true, if_false, hsize, hnext, hdrop, take_line, drop_line]
  unfold buildReply
  simp [hnull]

theorem feed_bulk {s : Bytes} (h : s.length < 2 ^ 31 - 2) :
    ∃ b : BulkStringBuilder, b.replyReady = true ∧ b.reply = .ofString s .bulkString ∧
      ∀ rest, feed {} (decimalInt s.length ++ crlf ++ (s ++ crlf ++ rest)) =
        ⟨b, rest, .ok ()⟩ := by
  have hlen : -2 ^ 63 < (s.length : Int) ∧ (s.length : Int) < 2 ^ 63 := by omega
  obtain ⟨i, hv, hf⟩ := fetchHeader_line (fun i => { intBuilder := i }) (setSize {}) hlen
  have hsize : (Int32.ofInt s.length).toInt = s.length :=
    Int32.toInt_ofInt_of_le (by omega) (by omega)
  have hne : Int32.ofInt s.length ≠ -1 := by
    intro h1
    rw [h1] at hsize
    have hneg : (-1 : Int32).toInt = -1 := rfl
    omega
  have hset : setSize {} i = { intBuilder := i, strSize := .ofInt s.length } := by
    simp [setSize, hv, hne]
  refine ⟨{ intBuilder := i
            strSize := .ofInt s.length
            str := s
            replyReady := true
            reply := .ofString s .bulkString }, rfl, rfl, ?_⟩
  intro rest
  unfold feed andThen fetchSize
  simp only [Bool.false_eq_true, if_false, hf]
  have hpayload := feedPayload_payload (b := { intBuilder := i, strSize := .ofInt s.length })
    rfl rfl hsize h rest
  rw [hset, hpayload]
  rfl

theorem feed_null :
    ∃ b : BulkStringBuilder, b.replyReady = true ∧ b.reply = {} ∧
      ∀ rest, feed {} (decimalInt (-1) ++ crlf ++ rest) = ⟨b, rest, .ok ()⟩ := by
  obtain ⟨i, hv, hf⟩ := fetchHeader_line (fun i => { intBuilder := i }) (setSize {})
    (show -2 ^ 63 < (-1 : Int) ∧ (-1 : Int) < 2 ^ 63 by decide)
  have hset : setSize {} i =
      { intBuilder := i, strSize := -1, isNull := true, replyReady := true } := by
    simp only [setSize, hv]
    rfl
  refine ⟨{ intBuilder := i, strSize := -1, isNull := true, replyReady := true }, rfl, rfl, ?_⟩
  intro rest
  unfold feed andThen fetchSize
  simp only [Bool.false_eq_true, if_false, hf]
  rw [hset]
  rfl

end BulkStringBuilder

/-! ## Decoding -/

/-- The builder chosen by the first byte of `code` reads the other bytes and no
more, and is then ready with `reply`. -/
def Decodes (code : Bytes) (reply : Reply) : Prop :=
  ∃ id body b₀ b, code = id :: body ∧ createBuilder id = .ok b₀ ∧
    (∀ rest, b₀.feed (body ++ rest) = ⟨b, rest, .ok ()⟩) ∧ b.replyReady = true ∧ b.getReply = reply

theorem Decodes.ne_nil {code : Bytes} {reply : Reply} (h : Decodes code reply) (rest : Bytes) :
    code ++ rest ≠ [] := by
  obtain ⟨id, body, _, _, rfl, _⟩ := h
  exact List.cons_ne_nil _ _

/-- A line, read by the builder of its type byte. -/
theorem Decodes.ofLine {id : Byte} {s more : Bytes} {reply : Reply} {b₀ : Builder} (b : Builder)
    (hid : createBuilder id = .ok b₀)
    (hfeed : ∀ rest, b₀.feed (s ++ crlf ++ (more ++ rest)) = ⟨b, rest, .ok ()⟩)
    (hready : b.replyReady = true) (hreply : b.getReply = reply) :
    Decodes (Value.line id s ++ more) reply := by
  refine ⟨id, s ++ crlf ++ more, b₀, b, rfl, hid, ?_, hready, hreply⟩
  intro rest
  rw [List.append_assoc]
  exact hfeed rest

/-- A turn on the bytes of one reply: the builder made for it is complete. -/
theorem feedCurrent_decodes {τ : Type} (t : τ) (store : Builder → τ)
    (complete : Builder → Except Fault τ) {code : Bytes} {reply : Reply} (h : Decodes code reply)
    (rest : Bytes) :
    ∃ b : Builder, b.getReply = reply ∧
      ∀ t', complete b = .ok t' →
        feedCurrent Builder.feed t none store complete (code ++ rest) = ⟨t', rest, .ok true⟩ := by
  obtain ⟨id, body, b₀, b, rfl, hid, hfeed, hready, hreply⟩ := h
  refine ⟨b, hreply, ?_⟩
  intro t' ht
  unfold feedCurrent
  simp only [takeBuilder, List.cons_append, hid, Except.map, hfeed, hready, Bool.true_eq_false,
    if_false, ht]

/-! ## Arrays -/

namespace ArrayBuilder

/-- The rows of an array, as many as are missing. -/
theorem rows_decode {rs : List Value} (hrs : ∀ r ∈ rs, Decodes r.encode r.toReply) (hne : rs ≠ [])
    {a : ArrayBuilder Builder} (hc : a.currentBuilder = none) (hr : a.replyReady = false)
    (hsize : a.reply.rows.length + rs.length = a.arraySize) (rest : Bytes) :
    run (rowTurn Builder.feed) weight a (Value.encodeAll rs ++ rest) =
      ⟨{ a with
          reply := { a.reply with type := .array, rows := a.reply.rows ++ Value.toReplies rs }
          replyReady := true }, rest, .ok ()⟩ := by
  induction rs generalizing a with
  | nil => exact absurd rfl hne
  | cons r rs ih =>
    have hcode := hrs r List.mem_cons_self
    obtain ⟨b, hb, hturn⟩ := feedCurrent_decodes a (fun b => { a with currentBuilder := some b })
      a.addRow hcode (Value.encodeAll rs ++ rest)
    have hgo : ¬ (r.encode ++ (Value.encodeAll rs ++ rest) = [] ∨ a.replyReady = true) := by
      rintro (h | h)
      · exact hcode.ne_nil _ h
      · rw [hr] at h
        cases h
    have hstep {a' : ArrayBuilder Builder} (h : a.addRow b = .ok a') :
        rowTurn Builder.feed a (r.encode ++ (Value.encodeAll rs ++ rest)) =
          ⟨a', Value.encodeAll rs ++ rest, .ok true⟩ := by
      unfold rowTurn buildRow
      rw [if_neg hgo, hc]
      exact hturn a' h
    rw [Value.encodeAll, List.append_assoc, run_eq (progress_rowTurn Builder.resumable)]
    cases rs with
    | nil =>
      -- the last row: the array is ready, and the next turn stops
      have hadd : a.addRow b = .ok
          { a with reply := a.reply.append r.toReply, currentBuilder := none, replyReady := true } := by
        have hlen : (a.reply.rows ++ [r.toReply]).length = a.arraySize := by simpa using hsize
        simp only [addRow, hb, Reply.asArray_append, bind, Except.bind, pure, Except.pure, if_pos hlen]
      rw [hstep hadd]
      dsimp only
      rw [run_eq (progress_rowTurn Builder.resumable), rowTurn, if_pos (.inr rfl)]
      simp only [Value.encodeAll, Value.toReplies, List.nil_append, hc]
      rfl
    | cons r' rs =>
      -- another row is missing: the rest are rows of the array with this one
      have hadd : a.addRow b = .ok
          { a with reply := a.reply.append r.toReply, currentBuilder := none } := by
        have hlen : (a.reply.rows ++ [r.toReply]).length ≠ a.arraySize := by
          simp only [List.length_cons, List.length_append, List.length_nil] at hsize ⊢
          omega
        simp only [addRow, hb, Reply.asArray_append, bind, Except.bind, pure, Except.pure, if_neg hlen]
      have hsize' : (a.reply.append r.toReply).rows.length + (r' :: rs).length = a.arraySize := by
        simp only [Reply.append, List.length_append, List.length_cons, List.length_nil] at hsize ⊢
        omega
      have hrows := ih (fun r hr => hrs r (List.mem_cons_of_mem _ hr)) (List.cons_ne_nil _ _)
        (show ({ a with reply := a.reply.append r.toReply, currentBuilder := none } :
          ArrayBuilder Builder).currentBuilder = none from rfl) hr hsize'
      rw [hstep hadd]
      dsimp only
      rw [hrows]
      simp only [Reply.append, Value.toReplies, List.append_assoc, List.singleton_append, hc]

theorem feed_array {rs : List Value} (hrs : ∀ r ∈ rs, Decodes r.encode r.toReply)
    (h : rs.length < 2 ^ 63) :
    ∃ a : ArrayBuilder Builder, a.replyReady = true ∧ a.reply = .ofRows (Value.toReplies rs) ∧
      ∀ rest, feed Builder.feed {} (decimalInt rs.length ++ crlf ++ (Value.encodeAll rs ++ rest)) =
        ⟨a, rest, .ok ()⟩ := by
  have hlen : -2 ^ 63 < (rs.length : Int) ∧ (rs.length : Int) < 2 ^ 63 := by omega
  obtain ⟨i, hv, hf⟩ := fetchHeader_line (fun i => { intBuilder := i }) (setArraySize {}) hlen
  have hfeed (rest : Bytes) :
      feed Builder.feed {} (decimalInt rs.length ++ crlf ++ (Value.encodeAll rs ++ rest)) =
        run (rowTurn Builder.feed) weight (setArraySize {} i) (Value.encodeAll rs ++ rest) := by
    unfold feed andThen fetchArraySize
    simp only [Bool.false_eq_true, if_false, hf]
  cases rs with
  | nil =>
    -- the special path of an empty array: ready with the header
    have hset : setArraySize {} i = { intBuilder := i, replyReady := true } := by
      simp [setArraySize, hv, toSize]
    refine ⟨{ intBuilder := i, replyReady := true }, rfl, rfl, ?_⟩
    intro rest
    rw [hfeed, hset, run_eq (progress_rowTurn Builder.resumable), rowTurn, if_pos (.inr rfl)]
    rfl
  | cons r rs =>
    have hset : setArraySize {} i = { intBuilder := i, arraySize := (r :: rs).length } := by
      have h0 : ¬ ((r :: rs).length : Int) < 0 := by omega
      have h1 : ((r :: rs).length : Int) ≠ 0 := by
        simp only [List.length_cons]
        omega
      have h2 : toSize (r :: rs).length = (r :: rs).length := by
        unfold toSize
        omega
      simp only [setArraySize, hv, if_neg h0, if_neg h1, h2]
    refine ⟨{ intBuilder := i
              arraySize := (r :: rs).length
              replyReady := true
              reply := .ofRows (Value.toReplies (r :: rs)) }, rfl, rfl, ?_⟩
    intro rest
    rw [hfeed, hset, rows_decode hrs (List.cons_ne_nil _ _) rfl rfl (by simp [Reply.ofRows])]
    rfl

theorem feed_null :
    ∃ a : ArrayBuilder Builder, a.replyReady = true ∧ a.reply = {} ∧
      ∀ rest, feed Builder.feed {} (decimalInt (-1) ++ crlf ++ rest) = ⟨a, rest, .ok ()⟩ := by
  obtain ⟨i, hv, hf⟩ := fetchHeader_line (fun i => { intBuilder := i }) (setArraySize {})
    (show -2 ^ 63 < (-1 : Int) ∧ (-1 : Int) < 2 ^ 63 by decide)
  have hset : setArraySize {} i =
      { intBuilder := i, arraySize := 2 ^ 64 - 1, replyReady := true, reply := {} } := by
    simp only [setArraySize, hv]
    rfl
  refine ⟨{ intBuilder := i, arraySize := 2 ^ 64 - 1, replyReady := true, reply := {} }, rfl, rfl,
    ?_⟩
  intro rest
  unfold feed andThen fetchArraySize
  simp only [Bool.false_eq_true, if_false, hf]
  rw [hset, run_eq (progress_rowTurn Builder.resumable), rowTurn, if_pos (.inr rfl)]

end ArrayBuilder

/-! ## Values -/

namespace Value

mutual

/-- Every well-formed value decodes to its reply, by induction on its nesting. -/
theorem decodes_encode : ∀ {v : Value}, v.WellFormed → Decodes v.encode v.toReply
  | .simpleString s, h => by
    rw [← List.append_nil (encode _)]
    refine Decodes.ofLine (.simpleString
      { str := s, replyReady := true, reply := .ofString s .simpleString }) rfl ?_ rfl rfl
    intro rest
    rw [Builder.feed_simpleString, SimpleStringBuilder.feed_line h]
    rfl
  | .error s, h => by
    rw [← List.append_nil (encode _)]
    refine Decodes.ofLine (.error
      { stringBuilder := { str := s, replyReady := true, reply := .ofString s .simpleString }
        reply := .ofString s .error }) rfl ?_ rfl rfl
    intro rest
    rw [Builder.feed_error, ErrorBuilder.feed, SimpleStringBuilder.feed_line h]
    rfl
  | .integer v, h => by
    obtain ⟨b, hready, -, hreply, hfeed⟩ := IntegerBuilder.feed_line h
    rw [← List.append_nil (encode _)]
    refine Decodes.ofLine (.integer b) rfl ?_ hready hreply
    intro rest
    rw [Builder.feed_integer, hfeed]
    rfl
  | .bulkString s, h => by
    obtain ⟨b, hready, hreply, hfeed⟩ := BulkStringBuilder.feed_bulk h
    rw [encode, List.append_assoc]
    refine Decodes.ofLine (.bulkString b) rfl ?_ hready hreply
    intro rest
    rw [Builder.feed_bulkString, hfeed]
    rfl
  | .nullBulk, _ => by
    obtain ⟨b, hready, hreply, hfeed⟩ := BulkStringBuilder.feed_null
    rw [← List.append_nil (encode _)]
    refine Decodes.ofLine (.bulkString b) rfl ?_ hready hreply
    intro rest
    rw [Builder.feed_bulkString, List.nil_append, hfeed]
    rfl
  | .nullArray, _ => by
    obtain ⟨a, hready, hreply, hfeed⟩ := ArrayBuilder.feed_null
    rw [← List.append_nil (encode _)]
    refine Decodes.ofLine (.array a) rfl ?_ hready hreply
    intro rest
    rw [Builder.feed_array, List.nil_append, hfeed]
    rfl
  | .array rows, h => by
    obtain ⟨a, hready, hreply, hfeed⟩ := ArrayBuilder.feed_array (decodes_encodeAll h.2) h.1
    rw [encode]
    refine Decodes.ofLine (.array a) rfl ?_ hready hreply
    intro rest
    rw [Builder.feed_array, hfeed]
    rfl

theorem decodes_encodeAll : ∀ {rs : List Value}, AllWellFormed rs →
    ∀ r ∈ rs, Decodes r.encode r.toReply
  | [], _, r, hr => nomatch hr
  | r :: rs, h, r', hr' => by
    rcases List.mem_cons.mp hr' with h' | h'
    · rw [h']
      exact decodes_encode h.1
    · exact decodes_encodeAll h.2 r' h'

end

end Value

/-! ## Replies -/

namespace ReplyBuilder

/-- Between two replies, with nothing left to read. -/
def Idle (s : ReplyBuilder) : Prop :=
  s.builder = none ∧ s.buffer = []

/-- The replies of a list of values, and whatever follows them. -/
theorem run_encodeAll {rs : List Value} (hrs : ∀ r ∈ rs, r.WellFormed) (available : List Reply)
    (rest : Bytes) :
    run Stage.buildReply Stage.weight { builder := none, availableReplies := available }
        (Value.encodeAll rs ++ rest) =
      run Stage.buildReply Stage.weight
        { builder := none, availableReplies := available ++ rs.map Value.toReply } rest := by
  induction rs generalizing available with
  | nil => simp [Value.encodeAll]
  | cons r rs ih =>
    have hcode := Value.decodes_encode (hrs r List.mem_cons_self)
    obtain ⟨b, hb, hturn⟩ := feedCurrent_decodes { builder := none, availableReplies := available }
      (fun b => { builder := some b, availableReplies := available })
      (fun b => .ok (Stage.addReply { builder := none, availableReplies := available } b)) hcode
      (Value.encodeAll rs ++ rest)
    have hstep := hturn _ rfl
    rw [Value.encodeAll, List.append_assoc, run_eq Stage.progress_buildReply, Stage.buildReply,
      if_neg (hcode.ne_nil _), hstep]
    dsimp only [Stage.addReply]
    rw [ih (fun r hr => hrs r (List.mem_cons_of_mem _ hr)), hb, List.map_cons, List.append_assoc]
    rfl

/-- An idle builder that is fed the encodings of some values is idle again, with
their replies available behind those that were. -/
theorem feed_encodeAll {s : ReplyBuilder} (hs : s.Idle) {rs : List Value}
    (hrs : ∀ r ∈ rs, r.WellFormed) :
    s.feed (Value.encodeAll rs) =
      ({ s with availableReplies := s.availableReplies ++ rs.map Value.toReply }, .ok ()) := by
  obtain ⟨⟨builder, available⟩, buffer⟩ := s
  obtain ⟨rfl, rfl⟩ := hs
  have hrun := run_encodeAll hrs available []
  rw [List.append_nil] at hrun
  unfold feed
  dsimp only
  rw [List.nil_append, hrun]
  rfl

/-- The round trip: the encodings of well-formed values, in chunks cut anywhere,
are read without a fault into exactly the replies of the values, in order, and
leave an empty buffer and no builder in progress. -/
theorem feedAll_encodeAll {rs : List Value} (hrs : ∀ r ∈ rs, r.WellFormed) {chunks : List Bytes}
    (h : chunks.flatten = (rs.map Value.encode).flatten) :
    feedAll {} chunks =
      ({ builder := none, availableReplies := rs.map Value.toReply, buffer := [] }, .ok ()) := by
  obtain ⟨-, ho, hs⟩ := feedAll_flatten settled_new chunks
  rw [h, ← Value.encodeAll_eq_flatten, feed_encodeAll ⟨rfl, rfl⟩ hrs] at ho hs
  exact Prod.ext (hs ho) ho

/-- An array of a bulk string that contains a CRLF and looks like a header, an
empty array and a null, cut inside of them. -/
theorem feedAll_encodeAll_nested :
    feedAll {} [ascii "*3\r\n$4\r\n$1\r", ascii "\n\r\n*0\r\n$-", ascii "1\r\n"] =
      ({ builder := none
         availableReplies := [.ofRows [.ofString (ascii "$1\r\n") .bulkString, .ofRows [], {}]]
         buffer := [] }, .ok ()) := by
  have hrs : ∀ r ∈ [Value.array [.bulkString (ascii "$1\r\n"), .array [], .nullBulk]],
      r.WellFormed := by
    simp [Value.WellFormed, Value.AllWellFormed, ascii]
  exact feedAll_encodeAll hrs (by decide)

end ReplyBuilder

end CppRedis
