import CppRedis.Builders

/-!
# Chunking independence of the builders

Every builder is a resumable consumer (`Resumable`), so it does not matter how
its input is cut. The proof follows the classes: lines first, then the bulk
string behind its header, then arrays over an arbitrary resumable builder of
their rows, and last the virtual call, by induction on the depth to which it may
nest.
-/

namespace CppRedis

open Text Consumer

/-! ## Builders of one line -/

/-- A builder that waits for a line and then depends on that line only. -/
theorem resumable_line {σ : Type} {feed : σ → Bytes → Turn σ Byte Fault Unit} {ready : σ → Bool}
    {b : σ} (line : Bytes → σ × Except Fault Unit)
    (hready : ∀ l b', line l = (b', .ok ()) → ready b' = true) (hb : ready b = false)
    (hnone : ∀ x, findCrlf x = none → feed b x = ⟨b, x, .ok ()⟩)
    (hthrow : ∀ x n b' e, findCrlf x = some n → line (x.take n) = (b', .error e) →
      feed b x = ⟨b', x, .error e⟩)
    (hline : ∀ x n b', findCrlf x = some n → line (x.take n) = (b', .ok ()) →
      feed b x = ⟨b', x.drop (n + 2), .ok ()⟩) :
    Resumable feed ready b := by
  have take (x y : Bytes) {n : Nat} (hn : findCrlf x = some n) : (x ++ y).take n = x.take n :=
    List.take_append_of_le_length (by have := findCrlf_length hn; omega)
  constructor
  · intro x
    cases hn : findCrlf x with
    | none => simp [hnone x hn]
    | some n =>
      rcases hl : line (x.take n) with ⟨b', e | ⟨⟩⟩
      · simp [hthrow x n b' e hn hl]
      · simp [hline x n b' hn hl]
  · intro x s' r e h y
    cases hn : findCrlf x with
    | none => rw [hnone x hn] at h; cases h
    | some n =>
      rcases hl : line (x.take n) with ⟨b', e' | ⟨⟩⟩
      · rw [hthrow x n b' e' hn hl] at h
        cases h
        exact hthrow _ n _ _ (findCrlf_append y hn) (by rw [take x y hn, hl])
      · rw [hline x n b' hn hl] at h; cases h
  · intro x s' r h hr y
    cases hn : findCrlf x with
    | none =>
      rw [hnone x hn] at h
      cases h
      rw [hb] at hr
      exact Bool.noConfusion hr
    | some n =>
      rcases hl : line (x.take n) with ⟨b', e' | ⟨⟩⟩
      · rw [hthrow x n b' e' hn hl] at h; cases h
      · rw [hline x n b' hn hl] at h
        cases h
        rw [hline _ n _ (findCrlf_append y hn) (by rw [take x y hn, hl]),
          List.drop_append_of_le_length (findCrlf_length hn)]
  · intro x s' r h hr y
    cases hn : findCrlf x with
    | none => rw [hnone x hn] at h; cases h; rfl
    | some n =>
      rcases hl : line (x.take n) with ⟨b', e' | ⟨⟩⟩
      · rw [hthrow x n b' e' hn hl] at h; cases h
      · rw [hline x n b' hn hl] at h
        cases h
        rw [hready _ _ hl] at hr
        exact Bool.noConfusion hr

theorem SimpleStringBuilder.resumable (b : SimpleStringBuilder) :
    Resumable SimpleStringBuilder.feed SimpleStringBuilder.replyReady b := by
  cases hb : b.replyReady with
  | true => exact .ofReady (fun x => if_pos hb) hb
  | false =>
    refine resumable_line
      (fun l => ({ b with str := l, reply := b.reply.setString l .simpleString, replyReady := true },
        .ok ())) ?_ hb ?_ ?_ ?_
    · rintro l b' h
      cases h
      rfl
    · intro x hn
      simp [feed, hb, hn]
    · intro x n b' e _ h
      cases h
    · intro x n b' hn h
      cases h
      simp [feed, hb, hn]

theorem ErrorBuilder.resumable (b : ErrorBuilder) :
    Resumable ErrorBuilder.feed ErrorBuilder.replyReady b := by
  refine Resumable.wrap _ b.stringBuilder.resumable (fun _ => rfl) ?_ ?_
  · intro s
    unfold ErrorBuilder.replyReady
    split <;> rfl
  · intro s x hs
    simp [feed, hs]

/-- What `<<` makes of the line once it is whole. -/
def IntegerBuilder.scanLine (b : IntegerBuilder) (l : Bytes) : IntegerBuilder × Except Fault Unit :=
  match b.scan 0 l with
  | (b, .error e) => (b, .error e)
  | (b, .ok ()) =>
    ({ b with reply := b.reply.setInteger b.getInteger, replyReady := true }, .ok ())

theorem IntegerBuilder.resumable (b : IntegerBuilder) :
    Resumable IntegerBuilder.feed IntegerBuilder.replyReady b := by
  cases hb : b.replyReady with
  | true => exact .ofReady (fun x => if_pos hb) hb
  | false =>
    refine resumable_line b.scanLine ?_ hb ?_ ?_ ?_
    · intro l b' h
      rcases hl : b.scan 0 l with ⟨c, e | ⟨⟩⟩
      · simp [scanLine, hl] at h
      · simp only [scanLine, hl, Prod.mk.injEq, and_true] at h
        rw [← h]
    · intro x hn
      simp [feed, hb, hn]
    · intro x n b' e hn h
      rcases hl : b.scan 0 (x.take n) with ⟨c, e' | ⟨⟩⟩
      · simp only [scanLine, hl, Prod.mk.injEq, Except.error.injEq] at h
        obtain ⟨rfl, rfl⟩ := h
        simp [feed, hb, hn, hl]
      · simp [scanLine, hl] at h
    · intro x n b' hn h
      rcases hl : b.scan 0 (x.take n) with ⟨c, e' | ⟨⟩⟩
      · simp [scanLine, hl] at h
      · simp only [scanLine, hl, Prod.mk.injEq, and_true] at h
        subst h
        simp [feed, hb, hn, hl]

/-! ## The header -/

/-- Fetching a size, in the state `t` of the members whose size is not known yet. -/
theorem stepping_fetchHeader {τ : Type} {fetch : τ → Bytes → Turn τ Byte Fault Bool} {t : τ}
    (i : IntegerBuilder) (store known : IntegerBuilder → τ)
    (ht : ∀ x, fetch t x = fetchHeader i store known x)
    (hstore : ∀ i' x, i'.replyReady = false → fetch (store i') x = fetchHeader i' store known x) :
    Stepping fetch t := by
  have hi := i.resumable
  constructor
  · intro x
    have := hi.shrink x
    rw [ht, fetchHeader]
    rcases hf : i.feed x with ⟨i', r, e | ⟨⟩⟩
    · simpa [hf] using this
    · cases hr : i'.replyReady <;> simpa [hf, hr] using this
  · intro x t' r e h y
    rw [ht, fetchHeader] at h ⊢
    rcases hf : i.feed x with ⟨i', r', e' | ⟨⟩⟩
    · simp only [hf] at h
      cases h
      rw [hi.throw hf]
    · cases hr : i'.replyReady <;> simp [hf, hr] at h
  · intro x t' r h y
    rw [ht, fetchHeader] at h ⊢
    rcases hf : i.feed x with ⟨i', r', e' | ⟨⟩⟩
    · simp [hf] at h
    · cases hr : i'.replyReady with
      | false => simp [hf, hr] at h
      | true =>
        simp only [hf, hr, Bool.true_eq_false, if_false] at h
        cases h
        rw [hi.finish hf hr]
        simp [hr]
  · intro x t' r h y
    rw [ht, fetchHeader] at h ⊢
    rcases hf : i.feed x with ⟨i', r', e' | ⟨⟩⟩
    · simp [hf] at h
    · cases hr : i'.replyReady with
      | true => simp [hf, hr] at h
      | false =>
        simp only [hf, hr, if_true] at h
        cases h
        rw [hi.resume hf hr, hstore i' _ hr, fetchHeader]

theorem fetchHeader_false {τ : Type} {i : IntegerBuilder} {store known : IntegerBuilder → τ}
    {x r : Bytes} {t : τ} (h : fetchHeader i store known x = ⟨t, r, .ok false⟩) :
    ∃ i', i'.replyReady = false ∧ t = store i' := by
  unfold fetchHeader at h
  split at h
  · cases h
  · next i' _ _ =>
    split at h
    · next hi =>
      cases h
      exact ⟨i', hi, rfl⟩
    · cases h

theorem fetchHeader_true {τ : Type} {i : IntegerBuilder} {store known : IntegerBuilder → τ}
    {x r : Bytes} {t : τ} (h : fetchHeader i store known x = ⟨t, r, .ok true⟩) :
    ∃ i', i'.replyReady = true ∧ t = known i' := by
  unfold fetchHeader at h
  split at h
  · cases h
  · next i' _ _ =>
    split at h
    · cases h
    · next hi =>
      cases h
      exact ⟨i', by simpa using hi, rfl⟩

/-! ## Bulk strings -/

namespace BulkStringBuilder

theorem stepping_fetchSize (b : BulkStringBuilder) : Stepping fetchSize b := by
  cases hb : b.intBuilder.replyReady with
  | true =>
    have h (x : Bytes) : fetchSize b x = ⟨b, x, .ok true⟩ := if_pos hb
    exact .ofTrue h
  | false =>
    refine stepping_fetchHeader b.intBuilder (fun i => { b with intBuilder := i }) b.setSize ?_ ?_
    · intro x
      simp [fetchSize, hb]
    · intro i x hi
      simp only [fetchSize, hi, Bool.false_eq_true, if_false]
      rfl

/-- The lengths that `fetch_str` computes are those of its `int` when the size is
not negative. -/
theorem payload_length {size : Int32} {n : Nat} (h : size.toInt = .ofNat n) :
    n < 2 ^ 31 ∧ toSize size.toInt = n ∧ (toSize size.toInt + 2) % 2 ^ 64 = n + 2 := by
  have hlt := size.toInt_lt
  rw [h] at hlt ⊢
  simp only [Int.ofNat_eq_natCast] at hlt ⊢
  have hn : n < 2 ^ 31 := by omega
  have hs : toSize (n : Int) = n := by
    unfold toSize
    omega
  exact ⟨hn, hs, by rw [hs]; omega⟩

/-- The test of the ending sequence looks at bytes that have arrived. -/
theorem checkEndSequence_append {size : Int32} {x : Bytes}
    (h : ¬ x.length < (toSize size.toInt + 2) % 2 ^ 64) (y : Bytes) :
    checkEndSequence size.toInt (x ++ y) = checkEndSequence size.toInt x := by
  cases hs : size.toInt with
  | negSucc n => rfl
  | ofNat n =>
    obtain ⟨hn, -, hneed⟩ := payload_length hs
    rw [hneed] at h
    have h0 : byteAt (x ++ y) (.ofNat n) = byteAt x (.ofNat n) := by
      simp only [byteAt]
      rw [List.getElem?_append_left (by omega)]
    have h1 : byteAt (x ++ y) (.ofNat (n + 1)) = byteAt x (.ofNat (n + 1)) := by
      simp only [byteAt]
      rw [List.getElem?_append_left (by omega)]
    have hnext : checkInt32 (Int.ofNat n + 1) = .ok (.ofNat (n + 1)) ∨
        ∃ e, checkInt32 (Int.ofNat n + 1) = .error e := by
      unfold checkInt32
      split
      · exact .inl rfl
      · exact .inr ⟨_, rfl⟩
    unfold checkEndSequence
    rw [h0]
    rcases hnext with hnext | ⟨e, hnext⟩
    · rw [hnext]
      simp only [bind, Except.bind, h1]
    · rw [hnext]
      rfl

/-- A size whose ending sequence was accepted is not negative. -/
theorem toInt_of_checkEndSequence {size : Int32} {x : Bytes}
    (h : checkEndSequence size.toInt x = .ok ()) : ∃ n, size.toInt = .ofNat n := by
  cases hs : size.toInt with
  | ofNat n => exact ⟨n, rfl⟩
  | negSucc n =>
    rw [hs] at h
    cases h

theorem fetchStr_wait {b : BulkStringBuilder} {x : Bytes}
    (h : x.length < (toSize b.strSize.toInt + 2) % 2 ^ 64) : b.fetchStr x = ⟨b, x, .ok ()⟩ :=
  if_pos h

theorem replyReady_buildReply (b : BulkStringBuilder) : b.buildReply.replyReady = true := by
  unfold buildReply
  split <;> rfl

/-- Once the payload has arrived, `fetch_str` throws or completes, and does not
look at what follows. -/
theorem fetchStr_arrived {b : BulkStringBuilder} {x : Bytes}
    (h : ¬ x.length < (toSize b.strSize.toInt + 2) % 2 ^ 64) (y : Bytes) :
    b.fetchStr (x ++ y) =
        ⟨(b.fetchStr x).state, (b.fetchStr x).rest ++ y, (b.fetchStr x).result⟩ ∧
      ((b.fetchStr x).result = .ok () → (b.fetchStr x).state.replyReady = true) ∧
      (b.fetchStr x).rest.length ≤ x.length := by
  have hxy : ¬ (x ++ y).length < (toSize b.strSize.toInt + 2) % 2 ^ 64 := by
    rw [List.length_append]
    omega
  unfold fetchStr
  rw [if_neg h, if_neg hxy, checkEndSequence_append h y]
  cases hc : checkEndSequence b.strSize.toInt x with
  | error e => simp
  | ok _ =>
    obtain ⟨n, hs⟩ := toInt_of_checkEndSequence hc
    obtain ⟨hn, hsize, hneed⟩ := payload_length hs
    rw [hneed] at h
    have htake : (x ++ y).take n = x.take n := List.take_append_of_le_length (by omega)
    simp only [hsize, htake]
    cases hi : checkInt32 (b.strSize.toInt + 2) with
    | error e => simp
    | ok k =>
      have hk : toSize k = n + 2 := by
        unfold checkInt32 at hi
        split at hi
        · cases hi
          rw [hs]
          unfold toSize
          simp only [Int.ofNat_eq_natCast]
          omega
        · cases hi
      have hdrop : (x ++ y).drop (n + 2) = x.drop (n + 2) ++ y :=
        List.drop_append_of_le_length (by omega)
      simp [hk, hdrop, replyReady_buildReply]

theorem resumable_feedPayload (b : BulkStringBuilder) : Resumable feedPayload replyReady b := by
  cases hb : b.replyReady with
  | true => exact .ofReady (fun x => if_pos hb) hb
  | false =>
    have hfeed (x : Bytes) : feedPayload b x = b.fetchStr x := by simp [feedPayload, hb]
    constructor
    · intro x
      rw [hfeed]
      by_cases h : x.length < (toSize b.strSize.toInt + 2) % 2 ^ 64
      · simp [fetchStr_wait h]
      · exact (fetchStr_arrived h []).2.2
    · intro x s' r e hx y
      rw [hfeed] at hx ⊢
      by_cases h : x.length < (toSize b.strSize.toInt + 2) % 2 ^ 64
      · rw [fetchStr_wait h] at hx
        cases hx
      · rw [(fetchStr_arrived h y).1, hx]
    · intro x s' r hx hr y
      rw [hfeed] at hx ⊢
      by_cases h : x.length < (toSize b.strSize.toInt + 2) % 2 ^ 64
      · rw [fetchStr_wait h] at hx
        cases hx
        rw [hb] at hr
        exact Bool.noConfusion hr
      · rw [(fetchStr_arrived h y).1, hx]
    · intro x s' r hx hr y
      rw [hfeed] at hx
      by_cases h : x.length < (toSize b.strSize.toInt + 2) % 2 ^ 64
      · rw [fetchStr_wait h] at hx
        cases hx
        rfl
      · have := (fetchStr_arrived h y).2.1
        rw [hx] at this
        rw [this rfl] at hr
        exact Bool.noConfusion hr

/-- What follows the header leaves the header alone. -/
theorem intBuilder_feedPayload (b : BulkStringBuilder) (x : Bytes) :
    (feedPayload b x).state.intBuilder = b.intBuilder := by
  have hbuild (c : BulkStringBuilder) : c.buildReply.intBuilder = c.intBuilder := by
    unfold buildReply
    split <;> rfl
  unfold feedPayload fetchStr
  split
  · rfl
  · split
    · rfl
    · split
      · rfl
      · dsimp only
        split
        · rfl
        · exact hbuild _

theorem intBuilder_setSize (b : BulkStringBuilder) (i : IntegerBuilder) :
    (b.setSize i).intBuilder = i := by
  unfold setSize buildReply
  dsimp only
  repeat' split
  all_goals rfl

theorem resumable (b : BulkStringBuilder) : Resumable feed replyReady b := by
  cases hb : b.replyReady with
  | true => exact .ofReady (fun x => if_pos hb) hb
  | false =>
    refine Resumable.andThen (fun b => b.intBuilder.replyReady = true) ?_ hb
      b.stepping_fetchSize ?_ ?_ ?_ ?_ (fun s _ => s.resumable_feedPayload)
    · intro s hs x
      simp [feed, hs]
    · intro x s' r h
      unfold fetchSize at h
      split at h
      · cases h
      · obtain ⟨i, _, rfl⟩ := fetchHeader_false h
        exact hb
    · intro x s' r h
      unfold fetchSize at h
      split at h
      · next hi =>
        cases h
        exact hi
      · obtain ⟨i, hi, rfl⟩ := fetchHeader_true h
        rw [intBuilder_setSize]
        exact hi
    · intro s' hs x
      exact if_pos hs
    · intro s' hs x
      rw [intBuilder_feedPayload]
      exact hs

end BulkStringBuilder

/-! ## A row at a time -/

theorem takeBuilder_append {current : Option Builder} {x r : Bytes} {b : Builder}
    (h : takeBuilder current x = .ok (b, r)) (y : Bytes) :
    takeBuilder current (x ++ y) = .ok (b, r ++ y) := by
  cases current with
  | some c =>
    cases h
    rfl
  | none =>
    cases x with
    | nil => cases h
    | cons id rest =>
      simp only [takeBuilder, List.cons_append] at h ⊢
      cases hc : createBuilder id with
      | error e =>
        rw [hc] at h
        cases h
      | ok c =>
        rw [hc] at h
        cases h
        rfl

theorem takeBuilder_error {current : Option Builder} {x : Bytes} {e : Fault} (hx : x ≠ [])
    (h : takeBuilder current x = .error e) (y : Bytes) :
    takeBuilder current (x ++ y) = .error e := by
  cases current with
  | some c => cases h
  | none =>
    cases x with
    | nil => exact absurd rfl hx
    | cons id rest =>
      simp only [takeBuilder, List.cons_append] at h ⊢
      cases hc : createBuilder id with
      | error e' =>
        rw [hc] at h
        exact h
      | ok c =>
        rw [hc] at h
        cases h

/-- A builder created for a row costs the byte of its type. -/
theorem takeBuilder_length {current : Option Builder} {x r : Bytes} {b : Builder}
    (h : takeBuilder current x = .ok (b, r)) :
    r.length + (if current.isSome then 0 else 1) = x.length := by
  cases current with
  | some c =>
    cases h
    rfl
  | none =>
    cases x with
    | nil => cases h
    | cons id rest =>
      simp only [takeBuilder] at h
      cases hc : createBuilder id with
      | error e =>
        rw [hc] at h
        cases h
      | ok c =>
        rw [hc] at h
        cases h
        rfl

/-- What a turn that goes on has done: it took the current builder or a new one,
fed it until it was ready, and completed it. -/
theorem feedCurrent_true {τ : Type} {feedRow : Builder → Bytes → Turn Builder Byte Fault Unit}
    {t t' : τ} {current : Option Builder} {store : Builder → τ} {complete : Builder → Except Fault τ}
    {x r : Bytes} (h : feedCurrent feedRow t current store complete x = ⟨t', r, .ok true⟩) :
    ∃ b x' b', takeBuilder current x = .ok (b, x') ∧ feedRow b x' = ⟨b', r, .ok ()⟩ ∧
      b'.replyReady = true ∧ complete b' = .ok t' := by
  unfold feedCurrent at h
  split at h
  · cases h
  · next b x' hb =>
    split at h
    · cases h
    · next b' r' hf =>
      split at h
      · cases h
      · next hr =>
        split at h
        · cases h
        · next hc =>
          cases h
          exact ⟨b, x', b', hb, hf, by simpa using hr, hc⟩

/-- What a turn that waits has done. -/
theorem feedCurrent_false {τ : Type} {feedRow : Builder → Bytes → Turn Builder Byte Fault Unit}
    {t t' : τ} {current : Option Builder} {store : Builder → τ} {complete : Builder → Except Fault τ}
    {x r : Bytes} (h : feedCurrent feedRow t current store complete x = ⟨t', r, .ok false⟩) :
    ∃ b x' b', takeBuilder current x = .ok (b, x') ∧ feedRow b x' = ⟨b', r, .ok ()⟩ ∧
      b'.replyReady = false ∧ t' = store b' := by
  unfold feedCurrent at h
  split at h
  · cases h
  · next b x' hb =>
    split at h
    · cases h
    · next b' r' hf =>
      split at h
      · next hr =>
        cases h
        exact ⟨b, x', b', hb, hf, hr, rfl⟩
      · split at h <;> cases h

/-- A turn leaves no more than there was to read. -/
theorem length_feedCurrent {τ : Type} {feedRow : Builder → Bytes → Turn Builder Byte Fault Unit}
    (hrow : ∀ b, Resumable feedRow Builder.replyReady b) (t : τ) (current : Option Builder)
    (store : Builder → τ) (complete : Builder → Except Fault τ) (x : Bytes) :
    (feedCurrent feedRow t current store complete x).rest.length ≤ x.length := by
  unfold feedCurrent
  cases hb : takeBuilder current x with
  | error e => exact Nat.le_refl _
  | ok p =>
    obtain ⟨b, x'⟩ := p
    have hlen := takeBuilder_length hb
    have hs := (hrow b).shrink x'
    rcases hf : feedRow b x' with ⟨b', r, e | ⟨⟩⟩
    · simp only [hf] at hs ⊢
      omega
    · have hr : r.length ≤ x.length := by
        simp only [hf] at hs
        omega
      simp only [hf]
      cases b'.replyReady with
      | false => simpa using hr
      | true => cases complete b' <;> simpa using hr

/-- A turn that throws does so whatever follows. -/
theorem feedCurrent_error_append {τ : Type}
    {feedRow : Builder → Bytes → Turn Builder Byte Fault Unit}
    (hrow : ∀ b, Resumable feedRow Builder.replyReady b) {t t' : τ} {current : Option Builder}
    {store : Builder → τ} {complete : Builder → Except Fault τ} {x r : Bytes} {e : Fault}
    (hx : x ≠ []) (h : feedCurrent feedRow t current store complete x = ⟨t', r, .error e⟩)
    (y : Bytes) :
    feedCurrent feedRow t current store complete (x ++ y) = ⟨t', r ++ y, .error e⟩ := by
  unfold feedCurrent at h ⊢
  cases hb : takeBuilder current x with
  | error e' =>
    simp only [hb] at h
    cases h
    rw [takeBuilder_error hx hb y]
  | ok p =>
    obtain ⟨b, x'⟩ := p
    simp only [hb] at h
    rw [takeBuilder_append hb y]
    rcases hf : feedRow b x' with ⟨b', r', e' | ⟨⟩⟩
    · simp only [hf] at h
      cases h
      simp only [(hrow b).throw hf y]
    · cases hr : b'.replyReady with
      | false => simp [hf, hr] at h
      | true =>
        simp only [hf, hr, Bool.true_eq_false, if_false] at h
        simp only [(hrow b).finish hf hr y, hr, Bool.true_eq_false, if_false]
        cases hc : complete b' with
        | ok t₂ => simp [hc] at h
        | error e' =>
          simp only [hc] at h
          cases h
          rfl

section FeedCurrent

variable {τ : Type} {feedRow : Builder → Bytes → Turn Builder Byte Fault Unit}
  {step : τ → Bytes → Turn τ Byte Fault Bool}

variable (stop : τ → Bool) (current : τ → Option Builder) (store : τ → Builder → τ)
  (complete : τ → Builder → Except Fault τ)

/-- The turn of `build_row` and of `build_reply` can be resumed when the virtual
call can. -/
theorem stepping_feedCurrent (hrow : ∀ b, Resumable feedRow Builder.replyReady b)
    (hstep : ∀ t x, step t x = if x = [] ∨ stop t = true then ⟨t, x, .ok false⟩
      else feedCurrent feedRow t (current t) (store t) (complete t) x)
    (hcurrent : ∀ t b, current (store t b) = some b) (hstop : ∀ t b, stop (store t b) = stop t)
    (hstore : ∀ t b, store (store t b) = store t)
    (hcomplete : ∀ t b, complete (store t b) = complete t) (t : τ) : Stepping step t := by
  have guard {x : Bytes} (y : Bytes) (h : ¬ (x = [] ∨ stop t = true)) :
      ¬ (x ++ y = [] ∨ stop t = true) := by
    rintro (hxy | hs)
    · exact h (.inl (List.append_eq_nil_iff.mp hxy).1)
    · exact h (.inr hs)
  constructor
  · intro x
    rw [hstep]
    split
    · exact Nat.le_refl _
    · exact length_feedCurrent hrow _ _ _ _ x
  · intro x t' r e h y
    rw [hstep] at h ⊢
    split at h
    · cases h
    · next hg =>
      rw [if_neg (guard y hg)]
      exact feedCurrent_error_append hrow (fun hx => hg (.inl hx)) h y
  · intro x t' r h y
    rw [hstep] at h ⊢
    split at h
    · cases h
    · next hg =>
      obtain ⟨b, x', b', hb, hf, hr, hc⟩ := feedCurrent_true h
      rw [if_neg (guard y hg), feedCurrent, takeBuilder_append hb y]
      simp [(hrow b).finish hf hr y, hr, hc]
  · intro x t' r h y
    rw [hstep] at h
    split at h
    · cases h
      rfl
    · next hg =>
      -- the turn waits with the builder stored, so the next one takes it from there
      obtain ⟨b, x', b', hb, hf, hr, rfl⟩ := feedCurrent_false h
      rw [hstep t, if_neg (guard y hg), hstep (store t b'), hstop]
      -- with nothing left to read the resumed turn does not call the builder
      by_cases hry : r ++ y = []
      · obtain ⟨rfl, rfl⟩ := List.append_eq_nil_iff.mp hry
        rw [if_pos (.inl hry), List.append_nil, h]
        rfl
      · have hg' : ¬ (r ++ y = [] ∨ stop t = true) := by
          rintro (h' | h')
          · exact hry h'
          · exact hg (.inr h')
        rw [if_neg hg', hcurrent, hstore, hcomplete]
        unfold feedCurrent
        rw [takeBuilder_append hb y]
        simp only [takeBuilder, (hrow b).resume hf hr y]

/-- A turn that goes on has read a byte, or completed a builder that was there. -/
theorem progress_feedCurrent {weight : τ → Nat}
    (hrow : ∀ b, Resumable feedRow Builder.replyReady b)
    (hstep : ∀ t x, step t x = if x = [] ∨ stop t = true then ⟨t, x, .ok false⟩
      else feedCurrent feedRow t (current t) (store t) (complete t) x)
    (hweight : ∀ t, weight t = if (current t).isSome then 1 else 0)
    (hdone : ∀ t b t', complete t b = .ok t' → current t' = none) : Progress step weight := by
  intro t x t' r h
  rw [hstep] at h
  split at h
  · cases h
  · obtain ⟨b, x', b', hb, hf, _, hc⟩ := feedCurrent_true h
    have hlen := takeBuilder_length hb
    have hs := (hrow b).shrink x'
    have h0 : weight t' = 0 := by rw [hweight, hdone t b' t' hc]; rfl
    rw [hf] at hs
    rw [h0, hweight t]
    dsimp only at hs
    split at hlen <;> simp_all <;> omega

end FeedCurrent

/-! ## Arrays -/

namespace Builder

theorem depth_array_some {a : ArrayBuilder Builder} {b : Builder} (h : a.currentBuilder = some b) :
    (array a).depth = b.depth + 1 := by
  obtain ⟨_, _, _, _, _⟩ := a
  cases h
  rfl

theorem depth_array_none {a : ArrayBuilder Builder} (h : a.currentBuilder = none) :
    (array a).depth = 1 := by
  obtain ⟨_, _, _, _, _⟩ := a
  cases h
  rfl

theorem depth_array_congr {a a' : ArrayBuilder Builder} (h : a'.currentBuilder = a.currentBuilder) :
    (array a').depth = (array a).depth := by
  cases hc : a.currentBuilder with
  | some b => rw [depth_array_some hc, depth_array_some (h.trans hc)]
  | none => rw [depth_array_none hc, depth_array_none (h.trans hc)]

theorem depth_pos (b : Builder) : 0 < b.depth := by
  unfold depth
  split <;> omega

/-- A new builder is not nested. -/
theorem depth_takeBuilder {x r : Bytes} {b : Builder} (h : takeBuilder none x = .ok (b, r)) :
    b.depth = 1 := by
  cases x with
  | nil => cases h
  | cons id rest =>
    simp only [takeBuilder, createBuilder] at h
    repeat' split at h
    all_goals cases h
    all_goals rfl

end Builder

namespace ArrayBuilder

variable {feedRow : Builder → Bytes → Turn Builder Byte Fault Unit}

theorem currentBuilder_addRow {a a' : ArrayBuilder Builder} {b : Builder}
    (h : a.addRow b = .ok a') : a'.currentBuilder = none := by
  simp only [addRow, Reply.asArray_append, bind, Except.bind, pure, Except.pure] at h
  split at h <;> cases h <;> rfl

theorem intBuilder_addRow {a a' : ArrayBuilder Builder} {b : Builder}
    (h : a.addRow b = .ok a') : a'.intBuilder = a.intBuilder := by
  simp only [addRow, Reply.asArray_append, bind, Except.bind, pure, Except.pure] at h
  split at h <;> cases h <;> rfl

theorem stepping_rowTurn (hrow : ∀ b, Resumable feedRow Builder.replyReady b)
    (a : ArrayBuilder Builder) : Stepping (rowTurn feedRow) a :=
  stepping_feedCurrent replyReady currentBuilder (fun a b => { a with currentBuilder := some b })
    addRow hrow (fun _ _ => rfl) (fun _ _ => rfl) (fun _ _ => rfl) (fun _ _ => rfl)
    (fun _ _ => rfl) a

theorem progress_rowTurn (hrow : ∀ b, Resumable feedRow Builder.replyReady b) :
    Progress (rowTurn feedRow) weight :=
  progress_feedCurrent replyReady currentBuilder (fun a b => { a with currentBuilder := some b })
    addRow hrow (fun _ _ => rfl) (fun _ => rfl) (fun _ _ _ => currentBuilder_addRow)

theorem stepping_fetchArraySize (a : ArrayBuilder Builder) : Stepping fetchArraySize a := by
  cases ha : a.intBuilder.replyReady with
  | true =>
    have h (x : Bytes) : fetchArraySize a x = ⟨a, x, .ok true⟩ := if_pos ha
    exact .ofTrue h
  | false =>
    refine stepping_fetchHeader a.intBuilder (fun i => { a with intBuilder := i }) a.setArraySize
      ?_ ?_
    · intro x
      simp [fetchArraySize, ha]
    · intro i x hi
      simp only [fetchArraySize, hi, Bool.false_eq_true, if_false]
      rfl

theorem intBuilder_setArraySize (a : ArrayBuilder Builder) (i : IntegerBuilder) :
    (a.setArraySize i).intBuilder = i := by
  unfold setArraySize
  dsimp only
  repeat' split
  all_goals rfl

theorem currentBuilder_setArraySize (a : ArrayBuilder Builder) (i : IntegerBuilder) :
    (a.setArraySize i).currentBuilder = a.currentBuilder := by
  unfold setArraySize
  dsimp only
  repeat' split
  all_goals rfl

/-- Once its size is known, the header of an array stays as it is. -/
theorem intBuilder_rowTurn (a : ArrayBuilder Builder) (x : Bytes) :
    (rowTurn feedRow a x).state.intBuilder = a.intBuilder := by
  unfold rowTurn buildRow feedCurrent
  split
  · rfl
  · split
    · rfl
    · split
      · rfl
      · split
        · rfl
        · split
          · rfl
          · next h => exact intBuilder_addRow h

theorem intBuilder_rows (hrow : ∀ b, Resumable feedRow Builder.replyReady b)
    (a : ArrayBuilder Builder) (x : Bytes) :
    (run (rowTurn feedRow) weight a x).state.intBuilder = a.intBuilder := by
  have turn {a a' : ArrayBuilder Builder} {x r : Bytes} {o : Except Fault Bool}
      (h : rowTurn feedRow a x = ⟨a', r, o⟩) : a'.intBuilder = a.intBuilder := by
    have hturn : (rowTurn feedRow a x).state.intBuilder = a.intBuilder := intBuilder_rowTurn a x
    rw [h] at hturn
    exact hturn
  refine run_induction (progress_rowTurn hrow)
    (P := fun a _ t => t.state.intBuilder = a.intBuilder) ?_ ?_ ?_ a x
  · intro a x a' r h
    exact turn h
  · intro a x a' r e h
    exact turn h
  · intro a x a' r t h ih
    exact ih.trans (turn h)

/-- The step from the rows to the array: whatever feeds the rows, if it is
resumable then so is the array. -/
theorem resumable (hrow : ∀ b, Resumable feedRow Builder.replyReady b)
    (a : ArrayBuilder Builder) : Resumable (feed feedRow) replyReady a := by
  cases ha : a.replyReady with
  | true => exact .ofReady (fun x => if_pos ha) ha
  | false =>
    have hrows (a : ArrayBuilder Builder) :
        Resumable (run (rowTurn feedRow) weight) replyReady a := by
      refine Resumable.ofRun (progress_rowTurn hrow) (stepping_rowTurn hrow) ?_ a
      intro a ha x
      exact if_pos (.inr ha)
    refine Resumable.andThen (fun a => a.intBuilder.replyReady = true) ?_ ha
      a.stepping_fetchArraySize ?_ ?_ ?_ ?_ (fun a _ => hrows a)
    · intro a ha x
      simp [feed, ha]
    · intro x a' r h
      unfold fetchArraySize at h
      split at h
      · cases h
      · obtain ⟨i, _, rfl⟩ := fetchHeader_false h
        exact ha
    · intro x a' r h
      unfold fetchArraySize at h
      split at h
      · next hi =>
        cases h
        exact hi
      · obtain ⟨i, hi, rfl⟩ := fetchHeader_true h
        rw [intBuilder_setArraySize]
        exact hi
    · intro a' h x
      exact if_pos h
    · intro a' h x
      rw [intBuilder_rows hrow]
      exact h

/-! ### Two ways to feed the rows -/

theorem currentBuilder_fetchArraySize {a a' : ArrayBuilder Builder} {x r : Bytes}
    (h : a.fetchArraySize x = ⟨a', r, .ok true⟩) : a'.currentBuilder = a.currentBuilder := by
  unfold fetchArraySize at h
  split at h
  · cases h
    rfl
  · obtain ⟨i, _, rfl⟩ := fetchHeader_true h
    exact a.currentBuilder_setArraySize i

/-- Two ways to feed the rows that agree on all builders and inputs within a
bound agree on an array within the next bound. -/
theorem feed_congr {f g : Builder → Bytes → Turn Builder Byte Fault Unit} {n : Nat}
    (hf : ∀ b, Resumable f Builder.replyReady b) (hg : ∀ b, Resumable g Builder.replyReady b)
    (hfg : ∀ b x, b.depth + x.length ≤ n → f b x = g b x) (a : ArrayBuilder Builder) (x : Bytes)
    (h : (Builder.array a).depth + x.length ≤ n + 1) : a.feed f x = a.feed g x := by
  -- a row in progress is one level down, and a new row costs its type byte
  have turn (a : ArrayBuilder Builder) (x : Bytes)
      (h : (Builder.array a).depth + x.length ≤ n + 1) : rowTurn f a x = rowTurn g a x := by
    unfold rowTurn buildRow feedCurrent
    split
    · rfl
    · cases hb : takeBuilder a.currentBuilder x with
      | error e => rfl
      | ok p =>
        obtain ⟨b, x'⟩ := p
        have hlen := takeBuilder_length hb
        have hle : b.depth + x'.length ≤ n := by
          cases hc : a.currentBuilder with
          | some c =>
            rw [hc] at hb hlen
            cases hb
            rw [Builder.depth_array_some hc] at h
            simp only [Option.isSome_some, if_true] at hlen
            omega
          | none =>
            rw [hc] at hb hlen
            rw [Builder.depth_takeBuilder hb]
            rw [Builder.depth_array_none hc] at h
            simp only [Option.isSome_none, Bool.false_eq_true, if_false] at hlen
            omega
        simp only [hfg b x' hle]
  have rows (a : ArrayBuilder Builder) (x : Bytes) (h : (Builder.array a).depth + x.length ≤ n + 1) :
      run (rowTurn f) weight a x = run (rowTurn g) weight a x := by
    refine run_congr (progress_rowTurn hf) (progress_rowTurn hg)
      (fun a x => (Builder.array a).depth + x.length ≤ n + 1) turn ?_ a x h
    intro a x a' r h hstep
    have hr := (stepping_rowTurn hf a).shrink x
    rw [hstep] at hr
    have ha : a'.currentBuilder = none := by
      unfold rowTurn buildRow at hstep
      split at hstep
      · cases hstep
      · obtain ⟨_, _, _, _, _, _, hc⟩ := feedCurrent_true hstep
        exact currentBuilder_addRow hc
    have hpos := (Builder.array a).depth_pos
    rw [Builder.depth_array_none ha]
    dsimp only at hr
    omega
  unfold feed
  split
  · rfl
  · unfold andThen
    have hshrink := a.stepping_fetchArraySize.shrink x
    split
    · rfl
    · rfl
    · next a' r hsize =>
      rw [hsize] at hshrink
      refine rows a' r ?_
      rw [Builder.depth_array_congr (currentBuilder_fetchArraySize hsize)]
      dsimp only at hshrink
      omega

end ArrayBuilder

/-! ## The virtual call -/

namespace Builder

theorem resumable_feedFuel (n : Nat) (b : Builder) : Resumable (feedFuel n) replyReady b := by
  induction n generalizing b with
  | zero =>
    constructor
    · intro x
      exact Nat.le_refl _
    · intro x s' r e h
      cases h
    · intro x s' r h _ y
      cases h
      rfl
    · intro x s' r h _ y
      cases h
      rfl
  | succ n ih =>
    cases b with
    | simpleString b => exact b.resumable.wrap _ (fun _ => rfl) (fun _ => rfl) (fun _ _ _ => rfl)
    | error b => exact b.resumable.wrap _ (fun _ => rfl) (fun _ => rfl) (fun _ _ _ => rfl)
    | integer b => exact b.resumable.wrap _ (fun _ => rfl) (fun _ => rfl) (fun _ _ _ => rfl)
    | bulkString b => exact b.resumable.wrap _ (fun _ => rfl) (fun _ => rfl) (fun _ _ _ => rfl)
    | array a =>
      exact (a.resumable ih).wrap _ (fun _ => rfl) (fun _ => rfl) (fun _ _ _ => rfl)

/-- One more level of nesting than the input can use makes no difference. -/
theorem feedFuel_succ (n : Nat) (b : Builder) (x : Bytes) (h : b.depth + x.length ≤ n) :
    feedFuel (n + 1) b x = feedFuel n b x := by
  induction n generalizing b x with
  | zero =>
    have := b.depth_pos
    omega
  | succ n ih =>
    cases b with
    | simpleString b => rfl
    | error b => rfl
    | integer b => rfl
    | bulkString b => rfl
    | array a =>
      simp only [feedFuel]
      rw [ArrayBuilder.feed_congr (resumable_feedFuel (n + 1)) (resumable_feedFuel n) ih a x h]

/-- The bound on the depth is never met: any greater one gives the same result. -/
theorem feedFuel_eq {n : Nat} {b : Builder} {x : Bytes} (h : b.depth + x.length ≤ n) :
    feedFuel n b x = b.feed x := by
  induction n, h using Nat.le_induction with
  | base => rfl
  | succ n h ih => rw [feedFuel_succ n b x h, ih]

theorem resumable (b : Builder) : Resumable feed replyReady b := by
  -- every equation is one of `feedFuel`, with a bound large enough for both of its sides
  constructor
  · intro x
    exact (resumable_feedFuel _ b).shrink x
  · intro x s' r e h y
    have hn : b.depth + x.length ≤ b.depth + (x ++ y).length := by
      rw [List.length_append]
      omega
    rw [← feedFuel_eq hn] at h
    exact (resumable_feedFuel _ b).throw h y
  · intro x s' r h hr y
    have hn : b.depth + x.length ≤ b.depth + (x ++ y).length := by
      rw [List.length_append]
      omega
    rw [← feedFuel_eq hn] at h
    exact (resumable_feedFuel _ b).finish h hr y
  · intro x s' r h hr y
    have hn₀ : b.depth + x.length ≤ b.depth + s'.depth + x.length + (r ++ y).length := by omega
    have hn : b.depth + (x ++ y).length ≤ b.depth + s'.depth + x.length + (r ++ y).length := by
      simp only [List.length_append]
      omega
    have hn' : s'.depth + (r ++ y).length ≤ b.depth + s'.depth + x.length + (r ++ y).length := by
      omega
    rw [← feedFuel_eq hn₀] at h
    rw [← feedFuel_eq hn, ← feedFuel_eq hn']
    exact (resumable_feedFuel _ b).resume h hr y

/-! ### The call of each class -/

theorem feed_simpleString (b : SimpleStringBuilder) (x : Bytes) :
    (simpleString b).feed x = (b.feed x).map .simpleString := by
  rw [← feedFuel_eq (Nat.le_succ _)]
  rfl

theorem feed_error (b : ErrorBuilder) (x : Bytes) : (error b).feed x = (b.feed x).map .error := by
  rw [← feedFuel_eq (Nat.le_succ _)]
  rfl

theorem feed_integer (b : IntegerBuilder) (x : Bytes) :
    (integer b).feed x = (b.feed x).map .integer := by
  rw [← feedFuel_eq (Nat.le_succ _)]
  rfl

theorem feed_bulkString (b : BulkStringBuilder) (x : Bytes) :
    (bulkString b).feed x = (b.feed x).map .bulkString := by
  rw [← feedFuel_eq (Nat.le_succ _)]
  rfl

/-- The builder of an array feeds its rows through the same virtual call. -/
theorem feed_array (a : ArrayBuilder Builder) (x : Bytes) :
    (array a).feed x = (a.feed feed x).map .array := by
  rw [← feedFuel_eq (Nat.le_succ _)]
  simp only [feedFuel]
  rw [ArrayBuilder.feed_congr (resumable_feedFuel _) resumable (fun b x h => feedFuel_eq h) a x
    (Nat.le_succ _)]

end Builder

/-! ## `reply_builder` -/

namespace Stage

theorem stepping_buildReply (s : Stage) : Stepping buildReply s :=
  stepping_feedCurrent (fun _ => false) builder (fun s b => { s with builder := some b })
    (fun s b => .ok (s.addReply b)) Builder.resumable (fun _ _ => by simp [buildReply])
    (fun _ _ => rfl) (fun _ _ => rfl) (fun _ _ => rfl) (fun _ _ => rfl) s

theorem progress_buildReply : Progress buildReply weight :=
  progress_feedCurrent (fun _ => false) builder (fun s b => { s with builder := some b })
    (fun s b => .ok (s.addReply b)) Builder.resumable (fun _ _ => by simp [buildReply])
    (fun _ => rfl) (fun _ _ _ h => by cases h; rfl)

end Stage

namespace ReplyBuilder

/-- Nothing more can be built from the buffer: so it is between two calls. -/
def Settled (s : ReplyBuilder) : Prop :=
  s.feed [] = (s, .ok ())

theorem settled_new : Settled {} :=
  rfl

/-- A call that returns leaves nothing to build. -/
theorem settled_feed {s s' : ReplyBuilder} {data : Bytes} (h : s.feed data = (s', .ok ())) :
    s'.Settled := by
  unfold feed at h
  rcases ht : run Stage.buildReply Stage.weight s.toStage (s.buffer ++ data) with ⟨t, r, o⟩
  rw [ht] at h
  cases h
  have := run_append Stage.progress_buildReply Stage.stepping_buildReply ht []
  rw [List.append_nil, ht, List.append_nil] at this
  simp [Settled, feed, ← this]

/-- Two chunks at once are the two chunks one after the other. -/
theorem feed_append_ok {s s' : ReplyBuilder} {x : Bytes} (h : s.feed x = (s', .ok ()))
    (y : Bytes) : s.feed (x ++ y) = s'.feed y := by
  unfold feed at h ⊢
  rcases ht : run Stage.buildReply Stage.weight s.toStage (s.buffer ++ x) with ⟨t, r, o⟩
  rw [ht] at h
  cases h
  rw [← List.append_assoc, run_append Stage.progress_buildReply Stage.stepping_buildReply ht]

/-- After a fault, later bytes stay in the buffer. -/
theorem feed_append_error {s s' : ReplyBuilder} {x : Bytes} {e : Fault}
    (h : s.feed x = (s', .error e)) (y : Bytes) :
    s.feed (x ++ y) = ({ s' with buffer := s'.buffer ++ y }, .error e) := by
  unfold feed at h ⊢
  rcases ht : run Stage.buildReply Stage.weight s.toStage (s.buffer ++ x) with ⟨t, r, o⟩
  rw [ht] at h
  cases h
  rw [← List.append_assoc, run_throw Stage.progress_buildReply Stage.stepping_buildReply ht]

/-- Chunks that are accepted one by one are accepted at once, to the same state. -/
theorem feedAll_ok {s s' : ReplyBuilder} (hs : s.Settled) {chunks : List Bytes}
    (h : s.feedAll chunks = (s', .ok ())) : s.feed chunks.flatten = (s', .ok ()) := by
  induction chunks generalizing s with
  | nil =>
    cases h
    exact hs
  | cons data chunks ih =>
    simp only [feedAll] at h
    split at h
    · cases h
    · next hd =>
      rw [List.flatten_cons, feed_append_ok hd]
      exact ih (settled_feed hd) h

/-- Chunks one of which faults fault at once, with the same members but the buffer. -/
theorem feedAll_error {s s' : ReplyBuilder} {chunks : List Bytes} {e : Fault}
    (h : s.feedAll chunks = (s', .error e)) :
    ∃ buffer, s.feed chunks.flatten = ({ s' with buffer := buffer }, .error e) := by
  induction chunks generalizing s with
  | nil => cases h
  | cons data chunks ih =>
    simp only [feedAll] at h
    split at h
    · next hd =>
      cases h
      exact ⟨_, feed_append_error hd _⟩
    · next hd =>
      rw [List.flatten_cons, feed_append_ok hd]
      exact ih h

/-- What is left of a stream that was cut: the same members but the buffer, the
same verdict, and the same buffer too unless there was a fault. -/
theorem feedAll_flatten {s : ReplyBuilder} (hs : s.Settled) (chunks : List Bytes) :
    (s.feedAll chunks).1.toStage = (s.feed chunks.flatten).1.toStage ∧
      (s.feedAll chunks).2 = (s.feed chunks.flatten).2 ∧
      ((s.feedAll chunks).2 = .ok () → (s.feedAll chunks).1 = (s.feed chunks.flatten).1) := by
  rcases h : s.feedAll chunks with ⟨s', e | ⟨⟩⟩
  · obtain ⟨buffer, hf⟩ := feedAll_error h
    rw [hf]
    exact ⟨rfl, rfl, fun h => nomatch h⟩
  · rw [feedAll_ok hs h]
    exact ⟨rfl, rfl, fun _ => rfl⟩

/-- How a stream is cut does not matter: to a new builder, two ways of cutting
it make the same replies available with the same verdict, and unless there was a
fault they leave the builder in states that do the same on every continuation. -/
theorem feedAll_chunking {chunks chunks' : List Bytes} (h : chunks.flatten = chunks'.flatten) :
    (feedAll {} chunks).1.availableReplies = (feedAll {} chunks').1.availableReplies ∧
      (feedAll {} chunks).2 = (feedAll {} chunks').2 ∧
      ((feedAll {} chunks).2 = .ok () → ∀ next,
        (feedAll {} chunks).1.feedAll next = (feedAll {} chunks').1.feedAll next) := by
  obtain ⟨hs, ho, hb⟩ := feedAll_flatten settled_new chunks
  obtain ⟨hs', ho', hb'⟩ := feedAll_flatten settled_new chunks'
  rw [h] at hs ho hb
  refine ⟨?_, ho.trans ho'.symm, ?_⟩
  · rw [hs, hs']
  · intro hok next
    rw [hb hok, hb' (by rw [ho', ← ho, hok])]

/-- A nested array, cut inside of its header, its bulk string and its end. -/
theorem feedAll_chunking_nested :
    (feedAll {} [ascii "*1\r\n*2\r\n$4\r\na\r\nb\r\n:7\r\n"]).1.availableReplies =
        (feedAll {} [ascii "*1\r\n*", ascii "2\r\n$4\r\na\r", [],
          ascii "\nb\r", ascii "\n:7\r\n"]).1.availableReplies ∧
      (feedAll {} [ascii "*1\r\n*2\r\n$4\r\na\r\nb\r\n:7\r\n"]).2 =
        (feedAll {} [ascii "*1\r\n*", ascii "2\r\n$4\r\na\r", [],
          ascii "\nb\r", ascii "\n:7\r\n"]).2 :=
  have h := feedAll_chunking
    (show [ascii "*1\r\n*2\r\n$4\r\na\r\nb\r\n:7\r\n"].flatten =
      [ascii "*1\r\n*", ascii "2\r\n$4\r\na\r", [], ascii "\nb\r", ascii "\n:7\r\n"].flatten by
        decide)
  ⟨h.1, h.2.1⟩

end ReplyBuilder

end CppRedis
