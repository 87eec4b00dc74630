import CppRedis.RoundTrip
import Mathlib.Data.List.Forall2

/-!
# Soundness of the parser

The converse of the round trip: whatever bytes a new `reply_builder` is fed, in whatever
chunks, as long as it meets no fault the replies that it makes available are those of a
prefix of the bytes, one after the other.

* `Derives p r`: the bytes `p` are one reply, namely `r`.
* `Reads p r hs`: the same for the grammar of the code, which narrows the header of a bulk
  string to an `int`; `hs` are the headers of the bulk strings. It is unambiguous
  (`Reads.unique`), so it tells what the headers of a byte string are.
* `Reading b p`: the builder `b` has read `p` and is not ready. It follows the rows of an
  array into each other.
* `feedAll_sound`: what was parsed is what the grammar derives.
-/

namespace CppRedis

open Text Consumer

open Value (line)

/-! ## The grammar -/

/-- A minus that may be missing, and digits, all of which may be missing. -/
inductive Numeral : Bytes → Int → Prop
  | positive {digits : Bytes} (hdigits : digits.all isDigit = true) :
      Numeral digits (decimalValue digits)
  | negative {digits : Bytes} (hdigits : digits.all isDigit = true) :
      Numeral (IntegerBuilder.minus :: digits) (-decimalValue digits)

/-- The bytes of one reply. -/
inductive Derives : Bytes → Reply → Prop
  | simpleString {s : Bytes} (hs : NoCrlf s) : Derives (line 43 s) (.ofString s .simpleString)
  | error {s : Bytes} (hs : NoCrlf s) : Derives (line 45 s) (.ofString s .error)
  | integer {s : Bytes} {n : Int} (hs : Numeral s n) : Derives (line 58 s) (.ofInteger n)
  | nullBulk {s : Bytes} (hs : Numeral s (-1)) : Derives (line 36 s) {}
  | bulkString {s payload : Bytes} (hs : Numeral s payload.length) :
      Derives (line 36 s ++ payload ++ crlf) (.ofString payload .bulkString)
  | nullArray {s : Bytes} {n : Int} (hs : Numeral s n) (hn : n < 0) : Derives (line 42 s) {}
  | array {s : Bytes} {ps : List Bytes} {rs : List Reply} (hs : Numeral s rs.length)
      (hrows : List.Forall₂ Derives ps rs) : Derives (line 42 s ++ ps.flatten) (.ofRows rs)

mutual

/-- What the code takes for a reply, with the headers of its bulk strings. -/
inductive Reads : Bytes → Reply → List Int → Prop
  | simpleString {s : Bytes} (hs : NoCrlf s) : Reads (line 43 s) (.ofString s .simpleString) []
  | error {s : Bytes} (hs : NoCrlf s) : Reads (line 45 s) (.ofString s .error) []
  | integer {s : Bytes} {n : Int} (hs : Numeral s n) : Reads (line 58 s) (.ofInteger n) []
  | nullBulk {s : Bytes} {n : Int} (hs : Numeral s n) (hn : Int32.ofInt n = -1) :
      Reads (line 36 s) {} [n]
  | bulkString {s payload : Bytes} {n : Int} (hs : Numeral s n)
      (hn : (Int32.ofInt n).toInt = payload.length) :
      Reads (line 36 s ++ payload ++ crlf) (.ofString payload .bulkString) [n]
  | nullArray {s : Bytes} {n : Int} (hs : Numeral s n) (hn : n < 0) : Reads (line 42 s) {} []
  | array {s : Bytes} {ps : List Bytes} {rs : List Reply} {hs' : List Int}
      (hs : Numeral s rs.length) (hrows : ReadsAll ps rs hs') :
      Reads (line 42 s ++ ps.flatten) (.ofRows rs) hs'

/-- The same for some replies, one after the other. -/
inductive ReadsAll : List Bytes → List Reply → List Int → Prop
  | nil : ReadsAll [] [] []
  | cons {p : Bytes} {r : Reply} {hs : List Int} {ps : List Bytes} {rs : List Reply}
      {hs' : List Int} (hrow : Reads p r hs) (hrows : ReadsAll ps rs hs') :
      ReadsAll (p :: ps) (r :: rs) (hs ++ hs')

end

/-- A header that an `int` can hold together with the end sequence of its payload. -/
def InRange (n : Int) : Prop :=
  -1 ≤ n ∧ n ≤ 2 ^ 31 - 3

instance (n : Int) : Decidable (InRange n) :=
  inferInstanceAs (Decidable (_ ∧ _))

/-- Every bulk string of the replies at the front of the bytes has such a header. -/
def HeadersInRange (s : Bytes) : Prop :=
  ∀ ps rs hs t, s = ps.flatten ++ t → ReadsAll ps rs hs → ∀ n ∈ hs, InRange n

theorem ReadsAll.concat {ps : List Bytes} {rs : List Reply} {hs : List Int} (h : ReadsAll ps rs hs)
    {p : Bytes} {r : Reply} {hs' : List Int} (hr : Reads p r hs') :
    ReadsAll (ps ++ [p]) (rs ++ [r]) (hs ++ hs') := by
  induction ps generalizing rs hs with
  | nil =>
    cases h
    have hone := ReadsAll.cons hr .nil
    rw [List.append_nil] at hone
    exact hone
  | cons q ps ih =>
    cases h with
    | cons hq hrows =>
      rw [List.append_assoc]
      exact .cons hq (ih hrows)

/-! ### Narrowing -/

theorem InRange.toInt {n : Int} (h : InRange n) : (Int32.ofInt n).toInt = n :=
  Int32.toInt_ofInt_of_le (by unfold InRange at h; omega) (by unfold InRange at h; omega)

mutual

/-- Where no header is narrowed, the grammar of the code is the grammar of the format. -/
theorem Reads.derives {p : Bytes} {r : Reply} {hs : List Int} :
    Reads p r hs → (∀ n ∈ hs, InRange n) → Derives p r
  | .simpleString hs, _ => .simpleString hs
  | .error hs, _ => .error hs
  | .integer hs, _ => .integer hs
  | .nullBulk (n := n) hs hn, hrange => by
    have hminus : n = -1 := by
      rw [← (hrange n (List.mem_singleton.mpr rfl)).toInt, hn]
      rfl
    exact .nullBulk (hminus ▸ hs)
  | .bulkString (n := n) hs hn, hrange => by
    rw [(hrange n (List.mem_singleton.mpr rfl)).toInt] at hn
    exact .bulkString (hn ▸ hs)
  | .nullArray hs hn, _ => .nullArray hs hn
  | .array hs hrows, hrange => .array hs (hrows.derives hrange)

theorem ReadsAll.derives {ps : List Bytes} {rs : List Reply} {hs : List Int} :
    ReadsAll ps rs hs → (∀ n ∈ hs, InRange n) → List.Forall₂ Derives ps rs
  | .nil, _ => .nil
  | .cons hrow hrows, hrange =>
    .cons (hrow.derives fun n hn => hrange n (List.mem_append_left _ hn))
      (hrows.derives fun n hn => hrange n (List.mem_append_right _ hn))

end

/-! ## Lines -/

/-- The first line of a byte string, and what follows it. -/
theorem findCrlf_eq_some {x : Bytes} {n : Nat} (h : findCrlf x = some n) :
    NoCrlf (x.take n) ∧ x = x.take n ++ crlf ++ x.drop (n + 2) := by
  induction x generalizing n with
  | nil => cases h
  | cons c rest ih =>
    rw [findCrlf] at h
    split at h
    · next hc =>
      cases h
      obtain ⟨rfl, hrest⟩ := hc
      cases rest with
      | nil => cases hrest
      | cons d rest =>
        cases hrest
        exact ⟨rfl, rfl⟩
    · next hc =>
      obtain ⟨m, hm, rfl⟩ := Option.map_eq_some_iff.mp h
      obtain ⟨hline, hsplit⟩ := ih hm
      refine ⟨?_, ?_⟩
      · rw [List.take_succ_cons, NoCrlf, findCrlf, if_neg, hline, Option.map_none]
        rintro ⟨hcr, hhead⟩
        refine hc ⟨hcr, ?_⟩
        cases m with
        | zero => cases hhead
        | succ m =>
          rw [List.head?_take] at hhead
          exact hhead
      · rw [List.take_succ_cons, List.cons_append, List.cons_append, List.drop_succ_cons]
        exact congrArg (c :: ·) hsplit

namespace IntegerBuilder

/-- What the digit loop accepted, after the place for the minus. -/
theorem scan_ok {b b' : IntegerBuilder} {i n : Nat} {s : Bytes} (hb : b.nbr = n) (hn : n < 2 ^ 63)
    (hi : i ≠ 0 ∨ s.head? ≠ some minus) (h : b.scan i s = (b', .ok ())) :
    s.all isDigit = true ∧ s.foldl (fun n c => n * 10 + digitValue c) n < 2 ^ 63 ∧
      b' = { b with nbr := (s.foldl (fun n c => n * 10 + digitValue c) n : Nat) } := by
  induction s generalizing b i n with
  | nil =>
    cases h
    exact ⟨rfl, hn, by rw [List.foldl_nil, ← hb]⟩
  | cons c s ih =>
    have hminus : ¬ (i = 0 ∧ b.negativeMultiplicator = 1 ∧ c = minus) := by
      rintro ⟨rfl, -, rfl⟩
      exact hi.elim (fun h => h rfl) (fun h => h rfl)
    rw [scan, if_neg hminus] at h
    split at h
    · cases h
    · next hdigit =>
      have hc : isDigit c = true := Bool.eq_true_of_not_eq_false hdigit
      cases hten : checkInt64 (b.nbr * 10) with
      | error e =>
        rw [hten] at h
        cases h
      | ok m =>
        rw [hten] at h
        dsimp only at h
        cases hsum : checkInt64 (m + digitValue c) with
        | error e =>
          rw [hsum] at h
          cases h
        | ok m' =>
          rw [hsum] at h
          have hm : m = ((n * 10 : Nat) : Int) := by
            unfold checkInt64 at hten
            split at hten
            · cases hten
              rw [hb, Nat.cast_mul]
              rfl
            · cases hten
          have hm' : m' = ((n * 10 + digitValue c : Nat) : Int) ∧ n * 10 + digitValue c < 2 ^ 63 := by
            unfold checkInt64 at hsum
            split at hsum
            · next hrange =>
              cases hsum
              rw [hm] at hrange ⊢
              exact ⟨(Nat.cast_add _ _).symm, by omega⟩
            · cases hsum
          obtain ⟨hdigits, hlt, rfl⟩ := ih hm'.1 hm'.2 (.inl (Nat.succ_ne_zero i)) h
          exact ⟨by rw [List.all_cons, hc, hdigits]; rfl, hlt, rfl⟩

/-- What the digit loop accepted of a whole line. -/
theorem scan_new {b : IntegerBuilder} {s : Bytes} (h : ({} : IntegerBuilder).scan 0 s = (b, .ok ())) :
    Numeral s b.getInteger ∧ b.getInteger < 2 ^ 63 ∧ b.reply = {} := by
  by_cases hminus : s.head? = some minus
  · obtain ⟨digits, rfl⟩ : ∃ digits, s = minus :: digits := by
      cases s with
      | nil => cases hminus
      | cons c digits => exact ⟨digits, by rw [Option.some.inj hminus]⟩
    rw [scan, if_pos ⟨rfl, rfl, rfl⟩] at h
    obtain ⟨hdigits, hlt, rfl⟩ := scan_ok (n := 0) rfl (by decide) (.inl (Nat.succ_ne_zero 0)) h
    have hneg := Numeral.negative hdigits
    rw [← neg_one_mul] at hneg
    refine ⟨hneg, ?_, rfl⟩
    unfold getInteger
    dsimp only
    omega
  · obtain ⟨hdigits, hlt, rfl⟩ := scan_ok (n := 0) rfl (by decide) (.inr hminus) h
    have hpos := Numeral.positive hdigits
    rw [← one_mul (decimalValue s : Int)] at hpos
    refine ⟨hpos, ?_, rfl⟩
    unfold getInteger
    dsimp only
    omega

/-- A new builder waits for its line, or has read it. -/
theorem feed_new {x rest : Bytes} {i : IntegerBuilder}
    (h : ({} : IntegerBuilder).feed x = ⟨i, rest, .ok ()⟩) :
    (i = {} ∧ x = rest) ∨ i.replyReady = true ∧ i.reply = .ofInteger i.getInteger ∧
      i.getInteger < 2 ^ 63 ∧ ∃ s, x = s ++ crlf ++ rest ∧ Numeral s i.getInteger := by
  unfold feed at h
  rw [if_neg Bool.false_ne_true] at h
  split at h
  · cases h
    exact .inl ⟨rfl, rfl⟩
  · next n hn =>
    obtain ⟨-, hsplit⟩ := findCrlf_eq_some hn
    split at h
    · cases h
    · next b hscan =>
      cases h
      obtain ⟨hnumeral, hlt, hreply⟩ := scan_new hscan
      refine .inr ⟨rfl, ?_, hlt, x.take n, hsplit, hnumeral⟩
      show b.reply.setInteger b.getInteger = .ofInteger b.getInteger
      rw [hreply]
      rfl

end IntegerBuilder

/-- The header of a new builder: it waits for its line, or has read it. -/
theorem fetchHeader_new {τ : Type} {store known : IntegerBuilder → τ} {x rest : Bytes} {t : τ}
    {done : Bool} (h : fetchHeader {} store known x = ⟨t, rest, .ok done⟩) :
    (done = false ∧ t = store {} ∧ x = rest) ∨ done = true ∧ ∃ i s, t = known i ∧
      i.replyReady = true ∧ i.getInteger < 2 ^ 63 ∧ x = s ++ crlf ++ rest ∧
        Numeral s i.getInteger := by
  unfold fetchHeader at h
  split at h
  · cases h
  · next i r hfeed =>
    rcases IntegerBuilder.feed_new hfeed with ⟨rfl, rfl⟩ | ⟨hready, -, hlt, s, hs, hnumeral⟩
    · cases h
      exact .inl ⟨rfl, rfl, rfl⟩
    · rw [hready, if_neg Bool.true_eq_false_eq_False] at h
      cases h
      exact .inr ⟨rfl, i, s, rfl, hready, hlt, hs, hnumeral⟩

/-! ## What a builder has read -/

/-- The builder has read these bytes, and more are to come. -/
inductive Reading : Builder → Bytes → Prop
  | fresh {id : Byte} {b : Builder} (hid : createBuilder id = .ok b) : Reading b [id]
  | payload {s : Bytes} {i : IntegerBuilder} (hi : i.replyReady = true)
      (hs : Numeral s i.getInteger) (hsize : Int32.ofInt i.getInteger ≠ -1) :
      Reading (.bulkString (BulkStringBuilder.setSize {} i)) (line 36 s)
  | rows {a : ArrayBuilder Builder} {s : Bytes} {ps : List Bytes} {rs : List Reply} {hs' : List Int}
      {q : Bytes} (hi : a.intBuilder.replyReady = true) (hready : a.replyReady = false)
      (hs : Numeral s a.arraySize) (hreply : a.reply = .ofRows rs) (hrows : ReadsAll ps rs hs')
      (hmore : rs.length < a.arraySize) (hnone : a.currentBuilder = none → q = [])
      (hsome : ∀ b, a.currentBuilder = some b → Reading b q) :
      Reading (.array a) (line 42 s ++ ps.flatten ++ q)

/-- A builder that has read these bytes: they are a reply, once it is ready. -/
def Parsed (b : Builder) (p : Bytes) : Prop :=
  if b.replyReady then ∃ hs, Reads p b.getReply hs else Reading b p

theorem Parsed.ready {b : Builder} {p : Bytes} (hb : b.replyReady = true) {hs : List Int}
    (h : Reads p b.getReply hs) : Parsed b p := by
  unfold Parsed
  rw [if_pos hb]
  exact ⟨hs, h⟩

theorem Parsed.reading {b : Builder} {p : Bytes} (hb : b.replyReady = false) (h : Reading b p) :
    Parsed b p := by
  unfold Parsed
  rw [if_neg (by rw [hb]; exact Bool.false_ne_true)]
  exact h

/-- The five new builders. -/
theorem createBuilder_ok {id : Byte} {b : Builder} (h : createBuilder id = .ok b) :
    (id = 43 ∧ b = .simpleString {}) ∨ (id = 45 ∧ b = .error {}) ∨ (id = 58 ∧ b = .integer {}) ∨
      (id = 36 ∧ b = .bulkString {}) ∨ (id = 42 ∧ b = .array {}) := by
  unfold createBuilder at h
  repeat' split at h
  all_goals cases h
  all_goals simp_all

theorem createBuilder_not_ready {id : Byte} {b : Builder} (h : createBuilder id = .ok b) :
    b.replyReady = false := by
  rcases createBuilder_ok h with ⟨-, rfl⟩ | ⟨-, rfl⟩ | ⟨-, rfl⟩ | ⟨-, rfl⟩ | ⟨-, rfl⟩ <;> rfl

theorem setSize_of_ne {i : IntegerBuilder} (h : Int32.ofInt i.getInteger ≠ -1) :
    BulkStringBuilder.setSize {} i = { intBuilder := i, strSize := .ofInt i.getInteger } := by
  unfold BulkStringBuilder.setSize
  exact if_neg h

theorem Reading.not_ready {b : Builder} {p : Bytes} (h : Reading b p) : b.replyReady = false := by
  cases h with
  | fresh hid => exact createBuilder_not_ready hid
  | payload hi hs hsize =>
    rw [setSize_of_ne hsize]
    rfl
  | rows _ hready => exact hready

/-- A call that returns has read some of its bytes, and nothing else. -/
def Advances (p x rest : Bytes) (b : Builder) : Prop :=
  ∃ q, x = q ++ rest ∧ Parsed b (p ++ q)

/-- What a virtual call does with a builder that is reading. -/
def Sound (feedRow : Builder → Bytes → Turn Builder Byte Fault Unit) : Prop :=
  ∀ {b b' : Builder} {p x rest : Bytes}, Reading b p → feedRow b x = ⟨b', rest, .ok ()⟩ →
    Advances p x rest b'

/-- A call that does nothing. -/
theorem Advances.wait {b : Builder} {p x : Bytes} (h : Reading b p) : Advances p x x b :=
  ⟨[], rfl, by rw [List.append_nil]; exact .reading h.not_ready h⟩

/-! ### The builders of lines -/

theorem line_eq (id : Byte) (s : Bytes) : [id] ++ (s ++ crlf) = line id s :=
  rfl

theorem SimpleStringBuilder.feed_sound {b : SimpleStringBuilder} {x rest : Bytes}
    (h : ({} : SimpleStringBuilder).feed x = ⟨b, rest, .ok ()⟩) :
    Advances [43] x rest (.simpleString b) := by
  unfold feed at h
  rw [if_neg Bool.false_ne_true] at h
  split at h
  · cases h
    exact .wait (.fresh rfl)
  · next n hn =>
    obtain ⟨hline, hsplit⟩ := findCrlf_eq_some hn
    cases h
    exact ⟨x.take n ++ crlf, hsplit, .ready rfl (.simpleString hline)⟩

theorem ErrorBuilder.feed_sound {b : ErrorBuilder} {x rest : Bytes}
    (h : ({} : ErrorBuilder).feed x = ⟨b, rest, .ok ()⟩) : Advances [45] x rest (.error b) := by
  unfold feed SimpleStringBuilder.feed at h
  rw [if_neg Bool.false_ne_true] at h
  split at h
  · cases h
    exact .wait (.fresh rfl)
  · next n hn =>
    obtain ⟨hline, hsplit⟩ := findCrlf_eq_some hn
    cases h
    exact ⟨x.take n ++ crlf, hsplit, .ready rfl (.error hline)⟩

theorem IntegerBuilder.feed_sound {b : IntegerBuilder} {x rest : Bytes}
    (h : ({} : IntegerBuilder).feed x = ⟨b, rest, .ok ()⟩) : Advances [58] x rest (.integer b) := by
  rcases feed_new h with ⟨rfl, rfl⟩ | ⟨hready, hreply, -, s, hs, hnumeral⟩
  · exact .wait (.fresh rfl)
  · have hreads : Reads (line 58 s) b.reply [] := by
      rw [hreply]
      exact .integer hnumeral
    exact ⟨s ++ crlf, hs, .ready hready hreads⟩

/-! ### Bulk strings -/

namespace BulkStringBuilder

theorem checkInt32_ok {v w : Int} (h : checkInt32 v = .ok w) : w = v := by
  unfold checkInt32 at h
  split at h
  · exact (Except.ok.inj h).symm
  · cases h

theorem byteAt_ok {x : Bytes} {i : Nat} {c : Byte} (h : byteAt x i = .ok c) :
    ∃ hi : i < x.length, x[i] = c := by
  change byteAt x (.ofNat i) = .ok c at h
  simp only [byteAt] at h
  split at h
  · next d hd =>
    rw [Except.ok.inj h] at hd
    exact List.getElem?_eq_some_iff.mp hd
  · cases h

theorem except_bind_ok {α β : Type} {x : Except Fault α} {f : α → Except Fault β} {b : β}
    (h : (x >>= f) = .ok b) : ∃ a, x = .ok a ∧ f a = .ok b := by
  cases x with
  | error e => cases h
  | ok a => exact ⟨a, rfl, h⟩

/-- The two bytes after a payload are the end sequence. -/
theorem checkEndSequence_ok {x : Bytes} {n : Nat} (h : checkEndSequence n x = .ok ()) :
    (x.take n).length = n ∧ x = x.take n ++ crlf ++ x.drop (n + 2) := by
  unfold checkEndSequence at h
  obtain ⟨c, hc, h⟩ := except_bind_ok h
  split at h
  · cases h
  · next hcr =>
    obtain ⟨next, hnext, h⟩ := except_bind_ok h
    obtain ⟨d, hd, h⟩ := except_bind_ok h
    split at h
    · cases h
    · next hlf =>
      have hsucc : next = ((n + 1 : Nat) : Int) := checkInt32_ok hnext
      rw [hsucc] at hd
      obtain ⟨hn, hc⟩ := byteAt_ok hc
      obtain ⟨hn', hd⟩ := byteAt_ok hd
      refine ⟨List.length_take_of_le (Nat.le_of_lt hn), ?_⟩
      have hend : x.drop n = cr :: lf :: x.drop (n + 2) := by
        rw [List.drop_eq_getElem_cons hn, List.drop_eq_getElem_cons hn', hc, hd,
          Decidable.not_not.mp hcr, Decidable.not_not.mp hlf]
      calc x = x.take n ++ x.drop n := (List.take_append_drop n x).symm
        _ = x.take n ++ crlf ++ x.drop (n + 2) := by
          rw [hend, List.append_assoc]
          rfl

/-- After its header a bulk string is null, waits for its payload or has read it. -/
theorem feedPayload_sound {i : IntegerBuilder} {s x rest : Bytes} {b : BulkStringBuilder}
    (hi : i.replyReady = true) (hs : Numeral s i.getInteger)
    (h : feedPayload (setSize {} i) x = ⟨b, rest, .ok ()⟩) :
    Advances (line 36 s) x rest (.bulkString b) := by
  by_cases hnull : Int32.ofInt i.getInteger = -1
  · have hset : setSize {} i = buildReply
        { intBuilder := i, strSize := .ofInt i.getInteger, isNull := true } := if_pos hnull
    rw [hset] at h
    cases h
    refine ⟨[], rfl, ?_⟩
    rw [List.append_nil]
    exact .ready rfl (.nullBulk hs hnull)
  · rw [setSize_of_ne hnull] at h
    have hwait := Advances.wait (x := x) (.payload hi hs hnull)
    unfold feedPayload fetchStr at h
    rw [if_neg Bool.false_ne_true] at h
    split at h
    · cases h
      rw [setSize_of_ne hnull] at hwait
      exact hwait
    · split at h
      · cases h
      · next hend =>
        obtain ⟨n, hn⟩ := toInt_of_checkEndSequence hend
        obtain ⟨hlt, hsize, -⟩ := payload_length hn
        dsimp only at h hend hn hsize
        rw [hn] at hend
        obtain ⟨hlength, hsplit⟩ := checkEndSequence_ok hend
        split at h
        · cases h
        · next m hm =>
          have htwo : m = ((n + 2 : Nat) : Int) := by
            rw [checkInt32_ok hm, hn]
            rfl
          have hdrop : toSize m = n + 2 := by
            rw [htwo]
            unfold toSize
            omega
          rw [hsize, hdrop] at h
          cases h
          refine ⟨x.take n ++ crlf, hsplit, ?_⟩
          rw [← List.append_assoc]
          exact .ready rfl (.bulkString hs (by rw [hn, hlength]; rfl))

/-- A new bulk string waits for its header, or goes on after it. -/
theorem feed_new_sound {b : BulkStringBuilder} {x rest : Bytes}
    (h : ({} : BulkStringBuilder).feed x = ⟨b, rest, .ok ()⟩) :
    Advances [36] x rest (.bulkString b) := by
  unfold feed at h
  rw [if_neg Bool.false_ne_true] at h
  unfold andThen at h
  split at h
  · cases h
  · next hfetch =>
    cases h
    unfold fetchSize at hfetch
    rw [if_neg Bool.false_ne_true] at hfetch
    rcases fetchHeader_new hfetch with ⟨-, rfl, rfl⟩ | ⟨hdone, -⟩
    · exact .wait (.fresh rfl)
    · cases hdone
  · next b' r hfetch =>
    unfold fetchSize at hfetch
    rw [if_neg Bool.false_ne_true] at hfetch
    rcases fetchHeader_new hfetch with ⟨hdone, -⟩ | ⟨-, i, s, rfl, hi, -, rfl, hs⟩
    · cases hdone
    · obtain ⟨q, rfl, hq⟩ := feedPayload_sound hi hs h
      refine ⟨s ++ crlf ++ q, by simp only [List.append_assoc], ?_⟩
      rw [← List.append_assoc, line_eq]
      exact hq

/-- A bulk string that knows its size goes on at once. -/
theorem feed_setSize {i : IntegerBuilder} (hi : i.replyReady = true)
    (hsize : Int32.ofInt i.getInteger ≠ -1) (x : Bytes) :
    (setSize {} i).feed x = feedPayload (setSize {} i) x := by
  rw [setSize_of_ne hsize]
  unfold feed andThen fetchSize
  rw [if_neg Bool.false_ne_true, if_pos hi]

end BulkStringBuilder

/-! ### Arrays -/

section Rows

variable {feedRow : Builder → Bytes → Turn Builder Byte Fault Unit}

/-- A turn of one of the two loops reads on in the current builder. -/
theorem feedCurrent_sound {τ : Type} (hrow : Sound feedRow) {t t' : τ} {current : Option Builder}
    {store : Builder → τ} {complete : Builder → Except Fault τ} {p x rest : Bytes} {done : Bool}
    (hnone : current = none → p = []) (hsome : ∀ b, current = some b → Reading b p)
    (h : feedCurrent feedRow t current store complete x = ⟨t', rest, .ok done⟩) :
    ∃ b q, x = q ++ rest ∧
      if done then (∃ hs, Reads (p ++ q) b.getReply hs) ∧ complete b = .ok t'
      else Reading b (p ++ q) ∧ t' = store b := by
  have hread {b b' : Builder} {x' : Bytes} (htake : takeBuilder current x = .ok (b, x'))
      (hfeed : feedRow b x' = ⟨b', rest, .ok ()⟩) : ∃ q, x = q ++ rest ∧ Parsed b' (p ++ q) := by
    cases current with
    | some c =>
      cases htake
      exact hrow (hsome _ rfl) hfeed
    | none =>
      cases hnone rfl
      cases x with
      | nil => cases htake
      | cons id x =>
        have htake : (createBuilder id).map (fun b => (b, x)) = .ok (b, x') := htake
        cases hid : createBuilder id with
        | error e =>
          rw [hid] at htake
          cases htake
        | ok c =>
          rw [hid] at htake
          cases htake
          obtain ⟨q, rfl, hq⟩ := hrow (.fresh hid) hfeed
          exact ⟨id :: q, rfl, hq⟩
  cases done with
  | true =>
    obtain ⟨b, x', b', htake, hfeed, hready, hcomplete⟩ := feedCurrent_true h
    obtain ⟨q, hq, hparsed⟩ := hread htake hfeed
    unfold Parsed at hparsed
    rw [if_pos hready] at hparsed
    exact ⟨b', q, hq, hparsed, hcomplete⟩
  | false =>
    obtain ⟨b, x', b', htake, hfeed, hready, hstore⟩ := feedCurrent_false h
    obtain ⟨q, hq, hparsed⟩ := hread htake hfeed
    unfold Parsed at hparsed
    rw [if_neg (by rw [hready]; exact Bool.false_ne_true)] at hparsed
    exact ⟨b', q, hq, hparsed, hstore⟩

namespace ArrayBuilder

/-- The last row that the header announced makes the array complete. -/
theorem addRow_ok {a a' : ArrayBuilder Builder} {b : Builder} {rs : List Reply}
    (hreply : a.reply = .ofRows rs) (h : a.addRow b = .ok a') :
    a' = { a with
      currentBuilder := none, reply := .ofRows (rs ++ [b.getReply])
      replyReady := a.replyReady || decide ((rs ++ [b.getReply]).length = a.arraySize) } := by
  unfold addRow at h
  rw [hreply] at h
  have hrows : (Reply.append (.ofRows rs) b.getReply).asArray = .ok (rs ++ [b.getReply]) := rfl
  simp only [hrows, bind, Except.bind, pure, Except.pure] at h
  split at h
  · next hlength =>
    cases h
    rw [decide_eq_true hlength, Bool.or_true]
    rfl
  · next hlength =>
    cases h
    rw [decide_eq_false hlength, Bool.or_false]
    rfl

/-- A turn over the rows. -/
theorem rowTurn_sound (hrow : Sound feedRow) {a a' : ArrayBuilder Builder} {p x rest : Bytes}
    {done : Bool} (ha : Parsed (.array a) p) (hi : a.intBuilder.replyReady = true)
    (h : rowTurn feedRow a x = ⟨a', rest, .ok done⟩) : Advances p x rest (.array a') := by
  unfold rowTurn at h
  split at h
  · cases h
    exact ⟨[], rfl, by rw [List.append_nil]; exact ha⟩
  · next hgo =>
    have hnot : a.replyReady = false := Bool.eq_false_iff.mpr fun hready => hgo (.inr hready)
    have hreading : Reading (.array a) p := by
      unfold Parsed at ha
      rw [if_neg (by show ¬ a.replyReady = true; rw [hnot]; exact Bool.false_ne_true)] at ha
      exact ha
    cases hreading with
    | fresh hid =>
      -- a new array does not know its size
      rcases createBuilder_ok hid with ⟨-, h⟩ | ⟨-, h⟩ | ⟨-, h⟩ | ⟨-, h⟩ | ⟨-, h⟩ <;> cases h
      cases hi
    | @rows _ s ps rs _ p₀ _ hready hs hreply hrows hmore hnone hsome =>
      obtain ⟨b, q, rfl, hturn⟩ := feedCurrent_sound hrow hnone hsome h
      refine ⟨q, rfl, ?_⟩
      rw [List.append_assoc]
      cases done with
      | false =>
        obtain ⟨hb, rfl⟩ := hturn
        refine .reading hready (.rows hi hready hs hreply hrows hmore (fun h => nomatch h) ?_)
        rintro c ⟨⟩
        exact hb
      | true =>
        obtain ⟨⟨hs', hb⟩, hcomplete⟩ := hturn
        have hrows' := hrows.concat hb
        have hflatten : line 42 s ++ ps.flatten ++ (p₀ ++ q) =
            line 42 s ++ (ps ++ [p₀ ++ q]).flatten := by
          rw [List.flatten_append, List.flatten_singleton, List.append_assoc]
        rw [addRow_ok hreply hcomplete, hready, Bool.false_or, hflatten]
        by_cases hlength : (rs ++ [b.getReply]).length = a.arraySize
        · rw [decide_eq_true hlength]
          rw [← hlength] at hs
          exact .ready rfl (.array hs hrows')
        · rw [decide_eq_false hlength, ← List.append_nil (line 42 s ++ _)]
          have hmore' : (rs ++ [b.getReply]).length < a.arraySize := by
            rw [List.length_append, List.length_singleton] at hlength ⊢
            omega
          exact .reading rfl (.rows hi rfl hs rfl hrows' hmore' (fun _ => rfl) (fun _ h => nomatch h))

theorem intBuilder_turn {a a' : ArrayBuilder Builder} {x rest : Bytes} {o : Except Fault Bool}
    (h : rowTurn feedRow a x = ⟨a', rest, o⟩) : a'.intBuilder = a.intBuilder := by
  have hturn : (rowTurn feedRow a x).state.intBuilder = a.intBuilder := intBuilder_rowTurn a x
  rw [h] at hturn
  exact hturn

/-- All turns over the rows. -/
theorem rows_sound (hrow : Sound feedRow) (hresume : ∀ b, Resumable feedRow Builder.replyReady b)
    {a a' : ArrayBuilder Builder} {p x rest : Bytes} (ha : Parsed (.array a) p)
    (hi : a.intBuilder.replyReady = true)
    (h : run (rowTurn feedRow) weight a x = ⟨a', rest, .ok ()⟩) : Advances p x rest (.array a') := by
  suffices ∀ a x, ∀ p, Parsed (.array a) p → a.intBuilder.replyReady = true → ∀ a' rest,
      run (rowTurn feedRow) weight a x = ⟨a', rest, .ok ()⟩ → Advances p x rest (.array a') from
    this a x p ha hi a' rest h
  refine run_induction (progress_rowTurn hresume)
    (P := fun a x t => ∀ p, Parsed (.array a) p → a.intBuilder.replyReady = true → ∀ a' rest,
      t = ⟨a', rest, .ok ()⟩ → Advances p x rest (.array a')) ?_ ?_ ?_
  · intro a x a' rest hturn p ha hi a'' rest' ht
    cases ht
    exact rowTurn_sound hrow ha hi hturn
  · intro a x a' rest e _ p _ _ a'' rest' ht
    cases ht
  · intro a x a' rest t hturn ih p ha hi a'' rest' ht
    obtain ⟨q, rfl, hq⟩ := rowTurn_sound hrow ha hi hturn
    obtain ⟨q', rfl, hq'⟩ := ih (p ++ q) hq (by rw [intBuilder_turn hturn]; exact hi) a'' rest' ht
    exact ⟨q ++ q', (List.append_assoc q q' rest').symm, by rw [← List.append_assoc]; exact hq'⟩

/-- An array that has just read its header. -/
theorem setArraySize_parsed {i : IntegerBuilder} {s : Bytes} (hi : i.replyReady = true)
    (hs : Numeral s i.getInteger) (hlt : i.getInteger < 2 ^ 63) :
    Parsed (.array (setArraySize {} i)) (line 42 s) := by
  unfold setArraySize
  dsimp only
  split
  · next hneg => exact .ready rfl (.nullArray hs hneg)
  · split
    · next hneg hzero =>
      rw [hzero] at hs
      have hempty : Reads (line 42 s ++ ([] : List Bytes).flatten) (.ofRows []) [] := .array hs .nil
      rw [List.flatten_nil, List.append_nil] at hempty
      exact .ready rfl hempty
    · next hneg hzero =>
      have hsize : ((toSize i.getInteger : Nat) : Int) = i.getInteger := by
        unfold toSize
        omega
      rw [← hsize] at hs
      have hempty : Reading (.array { intBuilder := i, arraySize := toSize i.getInteger })
          (line 42 s ++ ([] : List Bytes).flatten ++ []) :=
        .rows hi rfl hs rfl .nil (by show 0 < toSize i.getInteger; omega) (fun _ => rfl)
          (fun _ h => nomatch h)
      rw [List.flatten_nil, List.append_nil, List.append_nil] at hempty
      exact .reading rfl hempty

/-- A new array waits for its header, or goes on with its rows. -/
theorem feed_new_sound (hrow : Sound feedRow) (hresume : ∀ b, Resumable feedRow Builder.replyReady b)
    {a : ArrayBuilder Builder} {x rest : Bytes}
    (h : ({} : ArrayBuilder Builder).feed feedRow x = ⟨a, rest, .ok ()⟩) :
    Advances [42] x rest (.array a) := by
  unfold feed at h
  rw [if_neg Bool.false_ne_true] at h
  unfold andThen at h
  split at h
  · cases h
  · next hfetch =>
    cases h
    unfold fetchArraySize at hfetch
    rw [if_neg Bool.false_ne_true] at hfetch
    rcases fetchHeader_new hfetch with ⟨-, rfl, rfl⟩ | ⟨hdone, -⟩
    · exact .wait (.fresh rfl)
    · cases hdone
  · next a' r hfetch =>
    unfold fetchArraySize at hfetch
    rw [if_neg Bool.false_ne_true] at hfetch
    rcases fetchHeader_new hfetch with ⟨hdone, -⟩ | ⟨-, i, s, rfl, hi, hlt, rfl, hs⟩
    · cases hdone
    · obtain ⟨q, rfl, hq⟩ := rows_sound hrow hresume (setArraySize_parsed hi hs hlt)
        (by rw [intBuilder_setArraySize]; exact hi) h
      refine ⟨s ++ crlf ++ q, by simp only [List.append_assoc], ?_⟩
      rw [← List.append_assoc, line_eq]
      exact hq

/-- An array that knows its size goes on with its rows. -/
theorem feed_rows_sound (hrow : Sound feedRow) (hresume : ∀ b, Resumable feedRow Builder.replyReady b)
    {a a' : ArrayBuilder Builder} {p x rest : Bytes} (ha : Reading (.array a) p)
    (hi : a.intBuilder.replyReady = true) (h : a.feed feedRow x = ⟨a', rest, .ok ()⟩) :
    Advances p x rest (.array a') := by
  unfold feed at h
  have hready : a.replyReady = false := ha.not_ready
  have hfetch : a.fetchArraySize x = ⟨a, x, .ok true⟩ := if_pos hi
  rw [hready, if_neg Bool.false_ne_true] at h
  simp only [andThen, hfetch] at h
  exact rows_sound hrow hresume (.reading hready ha) hi h

end ArrayBuilder

end Rows

/-! ### The virtual call -/

namespace Builder

/-- By induction on the depth of the nesting: the rows of an array are read one level
further down. -/
theorem feedFuel_sound (n : Nat) : Sound (feedFuel n) := by
  induction n with
  | zero =>
    intro b b' p x rest hb h
    cases h
    exact .wait hb
  | succ n ih =>
    intro b b' p x rest hb h
    cases hb with
    | fresh hid =>
      rcases createBuilder_ok hid with ⟨rfl, rfl⟩ | ⟨rfl, rfl⟩ | ⟨rfl, rfl⟩ | ⟨rfl, rfl⟩ | ⟨rfl, rfl⟩
      · rcases hfeed : ({} : SimpleStringBuilder).feed x with ⟨b₁, r, o⟩
        rw [feedFuel, hfeed] at h
        cases h
        exact SimpleStringBuilder.feed_sound hfeed
      · rcases hfeed : ({} : ErrorBuilder).feed x with ⟨b₁, r, o⟩
        rw [feedFuel, hfeed] at h
        cases h
        exact ErrorBuilder.feed_sound hfeed
      · rcases hfeed : ({} : IntegerBuilder).feed x with ⟨b₁, r, o⟩
        rw [feedFuel, hfeed] at h
        cases h
        exact IntegerBuilder.feed_sound hfeed
      · rcases hfeed : ({} : BulkStringBuilder).feed x with ⟨b₁, r, o⟩
        rw [feedFuel, hfeed] at h
        cases h
        exact BulkStringBuilder.feed_new_sound hfeed
      · rcases hfeed : ({} : ArrayBuilder Builder).feed (feedFuel n) x with ⟨b₁, r, o⟩
        rw [feedFuel, hfeed] at h
        cases h
        exact ArrayBuilder.feed_new_sound ih (resumable_feedFuel n) hfeed
    | payload hi hs hsize =>
      rcases hfeed : BulkStringBuilder.feedPayload (.setSize {} _) x with ⟨b₁, r, o⟩
      rw [feedFuel, BulkStringBuilder.feed_setSize hi hsize, hfeed] at h
      cases h
      exact BulkStringBuilder.feedPayload_sound hi hs hfeed
    | @rows a _ _ _ _ _ hi hready hs hreply hrows hmore hnone hsome =>
      rcases hfeed : a.feed (feedFuel n) x with ⟨b₁, r, o⟩
      rw [feedFuel, hfeed] at h
      cases h
      exact ArrayBuilder.feed_rows_sound ih (resumable_feedFuel n)
        (.rows hi hready hs hreply hrows hmore hnone hsome) hi hfeed

theorem feed_sound : Sound feed :=
  fun hb h => feedFuel_sound _ hb h

end Builder

/-! ## The stream -/

/-- The replies that are available, and what was read of the next one. -/
def Stage.Received (t : Stage) (p : Bytes) : Prop :=
  ∃ ps hs q, p = ps.flatten ++ q ∧ ReadsAll ps t.availableReplies hs ∧
    (t.builder = none → q = []) ∧ ∀ b, t.builder = some b → Reading b q

/-- A turn of the loop over the stream. -/
theorem Stage.buildReply_sound {t t' : Stage} {p x rest : Bytes} {done : Bool} (ht : t.Received p)
    (h : t.buildReply x = ⟨t', rest, .ok done⟩) : ∃ q, x = q ++ rest ∧ t'.Received (p ++ q) := by
  obtain ⟨ps, hs, q₀, rfl, hreads, hnone, hsome⟩ := ht
  unfold buildReply at h
  split at h
  · cases h
    exact ⟨[], rfl, ps, hs, q₀, List.append_nil _, hreads, hnone, hsome⟩
  · obtain ⟨b, q, rfl, hturn⟩ := feedCurrent_sound Builder.feed_sound hnone hsome h
    refine ⟨q, rfl, ?_⟩
    cases done with
    | false =>
      obtain ⟨hb, rfl⟩ := hturn
      refine ⟨ps, hs, q₀ ++ q, List.append_assoc _ _ _, hreads, (fun h => nomatch h), ?_⟩
      rintro c ⟨⟩
      exact hb
    | true =>
      obtain ⟨⟨hs', hb⟩, hcomplete⟩ := hturn
      cases hcomplete
      refine ⟨ps ++ [q₀ ++ q], hs ++ hs', [], ?_, hreads.concat hb, fun _ => rfl,
        fun _ h => nomatch h⟩
      rw [List.append_nil, List.flatten_append, List.flatten_singleton, List.append_assoc]

theorem Stage.run_sound {t t' : Stage} {p x rest : Bytes} (ht : t.Received p)
    (h : run Stage.buildReply Stage.weight t x = ⟨t', rest, .ok ()⟩) :
    ∃ q, x = q ++ rest ∧ t'.Received (p ++ q) := by
  suffices ∀ t x, ∀ p, t.Received p → ∀ t' rest,
      run Stage.buildReply Stage.weight t x = ⟨t', rest, .ok ()⟩ →
        ∃ q, x = q ++ rest ∧ t'.Received (p ++ q) from this t x p ht t' rest h
  refine run_induction progress_buildReply
    (P := fun t x o => ∀ p, t.Received p → ∀ t' rest, o = ⟨t', rest, .ok ()⟩ →
      ∃ q, x = q ++ rest ∧ t'.Received (p ++ q)) ?_ ?_ ?_
  · intro t x t' rest hturn p ht t'' rest' ho
    cases ho
    exact buildReply_sound ht hturn
  · intro t x t' rest e _ p _ t'' rest' ho
    cases ho
  · intro t x t' rest o hturn ih p ht t'' rest' ho
    obtain ⟨q, rfl, hq⟩ := buildReply_sound ht hturn
    obtain ⟨q', rfl, hq'⟩ := ih (p ++ q) hq t'' rest' ho
    exact ⟨q ++ q', (List.append_assoc q q' rest').symm, by rw [← List.append_assoc]; exact hq'⟩

/-- What a new builder was fed without a fault is what it made available, what it has read
of the next reply and what is in its buffer. -/
theorem ReplyBuilder.feed_received {b : ReplyBuilder} {s : Bytes}
    (h : ({} : ReplyBuilder).feed s = (b, .ok ())) :
    ∃ p, s = p ++ b.buffer ∧ b.toStage.Received p := by
  unfold feed at h
  rcases hrun : run Stage.buildReply Stage.weight {} ([] ++ s) with ⟨t, rest, o⟩
  rw [hrun] at h
  cases h
  have hnew : Stage.Received {} [] := ⟨[], [], [], rfl, .nil, fun _ => rfl, fun _ h => nomatch h⟩
  exact Stage.run_sound hnew hrun

/-! ## One way to read a byte string -/

theorem Numeral.noCrlf {s : Bytes} {n : Int} (h : Numeral s n) : NoCrlf s := by
  cases h with
  | positive hdigits => exact noCrlf_of_not_mem (not_mem_of_all_isDigit hdigits (by decide))
  | negative hdigits =>
    refine noCrlf_of_not_mem fun hmem => ?_
    rcases List.mem_cons.mp hmem with hminus | hmem
    · exact absurd hminus (by decide)
    · exact not_mem_of_all_isDigit hdigits (by decide) hmem

theorem Numeral.unique {s : Bytes} {n n' : Int} (h : Numeral s n) (h' : Numeral s n') : n = n' := by
  have hminus {digits : Bytes} (hdigits : (IntegerBuilder.minus :: digits).all isDigit = true) :
      False := not_mem_of_all_isDigit hdigits (by decide) List.mem_cons_self
  cases h with
  | positive hdigits =>
    cases h' with
    | positive => rfl
    | negative => exact (hminus hdigits).elim
  | negative hdigits =>
    cases h' with
    | positive hdigits' => exact (hminus hdigits').elim
    | negative => rfl

/-- The first line tells where it ends. -/
theorem line_inj {id id' : Byte} {s s' t t' : Bytes} (hs : NoCrlf s) (hs' : NoCrlf s')
    (h : line id s ++ t = line id' s' ++ t') : id = id' ∧ s = s' ∧ t = t' := by
  obtain ⟨hid, hrest⟩ := List.cons.inj h
  have h : s ++ crlf ++ t = s' ++ crlf ++ t' := hrest
  have hfind := findCrlf_of_noCrlf t hs
  have hlength : s.length = s'.length := by
    have hfind' := findCrlf_of_noCrlf t' hs'
    rw [← h] at hfind'
    exact Option.some.inj (hfind.symm.trans hfind')
  obtain ⟨hline, ht⟩ := List.append_inj h (by rw [List.length_append, List.length_append, hlength])
  exact ⟨hid, (List.append_inj hline hlength).1, ht⟩

/-- The line of a reply. -/
theorem Reads.exists_line {p : Bytes} {r : Reply} {hs : List Int} (h : Reads p r hs) :
    ∃ id s q, p = line id s ++ q ∧ NoCrlf s := by
  cases h with
  | simpleString hs => exact ⟨_, _, [], (List.append_nil _).symm, hs⟩
  | error hs => exact ⟨_, _, [], (List.append_nil _).symm, hs⟩
  | integer hs => exact ⟨_, _, [], (List.append_nil _).symm, hs.noCrlf⟩
  | nullBulk hs => exact ⟨_, _, [], (List.append_nil _).symm, hs.noCrlf⟩
  | bulkString hs => exact ⟨_, _, _, List.append_assoc _ _ _, hs.noCrlf⟩
  | nullArray hs => exact ⟨_, _, [], (List.append_nil _).symm, hs.noCrlf⟩
  | array hs => exact ⟨_, _, _, rfl, hs.noCrlf⟩

theorem Reads.ne_nil {p : Bytes} {r : Reply} {hs : List Int} (h : Reads p r hs) : p ≠ [] := by
  obtain ⟨id, s, q, rfl, -⟩ := h.exists_line
  exact fun h => nomatch h

/-- The header of a null is not the length of a payload. -/
theorem not_null_of_length {n : Int} {payload : Bytes} (hn : Int32.ofInt n = -1)
    (hlength : (Int32.ofInt n).toInt = payload.length) : False := by
  rw [hn] at hlength
  have hminus : (-1 : Int32).toInt = -1 := rfl
  omega

mutual

/-- What the code takes for a reply at the front of some bytes, it takes for no other one. -/
theorem Reads.unique {p p' : Bytes} {r r' : Reply} {hs hs' : List Int} {t t' : Bytes}
    (h : Reads p r hs) (h' : Reads p' r' hs') (heq : p ++ t = p' ++ t') :
    p = p' ∧ r = r' ∧ hs = hs' := by
  -- the type bytes are equal, so only two readings of the same type are left
  cases h <;> cases h' <;> try exact absurd (List.cons.inj heq).1 (by decide)
  case simpleString.simpleString hs _ hs' =>
    obtain ⟨-, rfl, -⟩ := line_inj hs hs' heq
    exact ⟨rfl, rfl, rfl⟩
  case error.error hs _ hs' =>
    obtain ⟨-, rfl, -⟩ := line_inj hs hs' heq
    exact ⟨rfl, rfl, rfl⟩
  case integer.integer hs _ _ hs' =>
    obtain ⟨-, rfl, -⟩ := line_inj hs.noCrlf hs'.noCrlf heq
    obtain rfl := hs.unique hs'
    exact ⟨rfl, rfl, rfl⟩
  case nullBulk.nullBulk hs _ _ _ hs' _ =>
    obtain ⟨-, rfl, -⟩ := line_inj hs.noCrlf hs'.noCrlf heq
    obtain rfl := hs.unique hs'
    exact ⟨rfl, rfl, rfl⟩
  case nullBulk.bulkString hs hn _ _ _ hs' hn' =>
    rw [List.append_assoc, List.append_assoc] at heq
    obtain ⟨-, rfl, -⟩ := line_inj hs.noCrlf hs'.noCrlf heq
    obtain rfl := hs.unique hs'
    exact (not_null_of_length hn hn').elim
  case bulkString.nullBulk hs hn _ _ hs' hn' =>
    rw [List.append_assoc, List.append_assoc] at heq
    obtain ⟨-, rfl, -⟩ := line_inj hs.noCrlf hs'.noCrlf heq
    obtain rfl := hs.unique hs'
    exact (not_null_of_length hn' hn).elim
  case bulkString.bulkString hs hn _ _ _ hs' hn' =>
    rw [List.append_assoc, List.append_assoc, List.append_assoc, List.append_assoc] at heq
    obtain ⟨-, rfl, hpayload⟩ := line_inj hs.noCrlf hs'.noCrlf heq
    obtain rfl := hs.unique hs'
    obtain ⟨rfl, -⟩ := List.append_inj hpayload (Int.ofNat.inj (hn.symm.trans hn'))
    exact ⟨rfl, rfl, rfl⟩
  case nullArray.nullArray hs _ _ _ hs' _ =>
    obtain ⟨-, rfl, -⟩ := line_inj hs.noCrlf hs'.noCrlf heq
    exact ⟨rfl, rfl, rfl⟩
  case nullArray.array hs hn _ _ _ hs' _ =>
    rw [List.append_assoc] at heq
    obtain ⟨-, rfl, -⟩ := line_inj hs.noCrlf hs'.noCrlf heq
    rw [hs.unique hs'] at hn
    exact absurd hn (Int.not_lt.mpr (Int.natCast_nonneg _))
  case array.nullArray hs _ _ _ hs' hn =>
    rw [List.append_assoc] at heq
    obtain ⟨-, rfl, -⟩ := line_inj hs.noCrlf hs'.noCrlf heq
    rw [hs'.unique hs] at hn
    exact absurd hn (Int.not_lt.mpr (Int.natCast_nonneg _))
  case array.array hs hrows _ _ _ hs' hrows' =>
    rw [List.append_assoc, List.append_assoc] at heq
    obtain ⟨-, rfl, hflatten⟩ := line_inj hs.noCrlf hs'.noCrlf heq
    obtain ⟨rfl, rfl, rfl⟩ := hrows.unique hrows' (Int.ofNat.inj (hs.unique hs')) hflatten
    exact ⟨rfl, rfl, rfl⟩

theorem ReadsAll.unique {ps ps' : List Bytes} {rs rs' : List Reply} {hs hs' : List Int}
    {t t' : Bytes} (h : ReadsAll ps rs hs) (h' : ReadsAll ps' rs' hs')
    (hlength : rs.length = rs'.length) (heq : ps.flatten ++ t = ps'.flatten ++ t') :
    ps = ps' ∧ rs = rs' ∧ hs = hs' := by
  cases h with
  | nil =>
    cases h' with
    | nil => exact ⟨rfl, rfl, rfl⟩
    | cons => cases hlength
  | cons hrow hrows =>
    cases h' with
    | nil => cases hlength
    | cons hrow' hrows' =>
      rw [List.flatten_cons, List.flatten_cons, List.append_assoc, List.append_assoc] at heq
      obtain ⟨rfl, rfl, rfl⟩ := hrow.unique hrow' heq
      obtain ⟨rfl, rfl, rfl⟩ := hrows.unique hrows' (Nat.succ.inj hlength) (List.append_cancel_left heq)
      exact ⟨rfl, rfl, rfl⟩

end

/-- The headers of some replies are those of their bytes. -/
theorem ReadsAll.headersInRange {ps : List Bytes} {rs : List Reply} {hs : List Int}
    (h : ReadsAll ps rs hs) (hrange : ∀ n ∈ hs, InRange n) : HeadersInRange ps.flatten := by
  intro ps' rs' hs' t heq h'
  induction ps generalizing rs hs ps' rs' hs' with
  | nil =>
    cases h' with
    | nil => exact fun n hn => absurd hn List.not_mem_nil
    | cons hrow' hrows' =>
      rw [List.flatten_nil, List.flatten_cons, List.append_assoc] at heq
      exact absurd (List.append_eq_nil_iff.mp heq.symm).1 hrow'.ne_nil
  | cons p ps ih =>
    cases h with
    | cons hrow hrows =>
      cases h' with
      | nil => exact fun n hn => absurd hn List.not_mem_nil
      | cons hrow' hrows' =>
        rw [List.flatten_cons, List.flatten_cons, List.append_assoc] at heq
        obtain ⟨rfl, rfl, rfl⟩ := hrow.unique hrow' heq
        intro n hn
        rcases List.mem_append.mp hn with hn | hn
        · exact hrange n (List.mem_append_left _ hn)
        · exact ih hrows (fun n hn => hrange n (List.mem_append_right _ hn)) _ _ _
            (List.append_cancel_left heq) hrows' n hn

/-! ## Soundness -/

/-- Whatever chunks a new builder is fed, if it meets no fault and no header of a bulk
string is narrowed, the bytes are those of the replies that are available, one after the
other, and then some that are left over. -/
theorem ReplyBuilder.feedAll_sound {chunks : List Bytes} {b : ReplyBuilder}
    (h : ({} : ReplyBuilder).feedAll chunks = (b, .ok ()))
    (hheaders : HeadersInRange chunks.flatten) :
    ∃ ps t, chunks.flatten = ps.flatten ++ t ∧ List.Forall₂ Derives ps b.availableReplies := by
  obtain ⟨p, hp, ps, hs, q, rfl, hreads, -⟩ := feed_received (feedAll_ok settled_new h)
  refine ⟨ps, q ++ b.buffer, by rw [hp, List.append_assoc], ?_⟩
  refine hreads.derives (hheaders ps _ hs (q ++ b.buffer) ?_ hreads)
  rw [hp, List.append_assoc]

/-- An array of an integer and a bulk string, cut inside of the bulk string. -/
theorem ReplyBuilder.feedAll_sound_nested :
    let chunks := [ascii "*2\r\n:-7\r\n$3\r\n\r", ascii "\n!\r\n"]
    ∃ ps t, chunks.flatten = ps.flatten ++ t ∧
      List.Forall₂ Derives ps (({} : ReplyBuilder).feedAll chunks).1.availableReplies := by
  intro chunks
  have hinteger : Reads (line 58 (ascii "-7")) (.ofInteger (-7)) [] :=
    .integer (.negative (show (ascii "7").all isDigit = true by decide))
  have hbulk : Reads (line 36 (ascii "3") ++ ascii "\r\n!" ++ crlf)
      (.ofString (ascii "\r\n!") .bulkString) [3] :=
    .bulkString (.positive (by decide)) (by decide)
  have harray := Reads.array (s := ascii "2") (.positive (by decide)) (.cons hinteger (.cons hbulk .nil))
  have hchunks : chunks.flatten = [line 42 (ascii "2") ++ [line 58 (ascii "-7"),
      line 36 (ascii "3") ++ ascii "\r\n!" ++ crlf].flatten].flatten := by decide
  refine feedAll_sound (b := (({} : ReplyBuilder).feedAll chunks).1) (Prod.ext rfl ?_) ?_
  · rfl
  · rw [hchunks]
    exact (ReadsAll.cons harray .nil).headersInRange (by decide)

end CppRedis
