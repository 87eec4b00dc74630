import CppRedis.Chunking

/-!
# What `reset` forgets

`reply_builder::reset` clears the buffer and the builder in progress and leaves
the queue of the replies that are ready. So a stream that is fed afterwards makes
available the replies left over, and then those of a new builder
(`feedAll_reset`): the previous connection is forgotten if and only if no reply
was left over (`forgets_reset_iff`).
-/

namespace CppRedis

open Text Consumer

/-! ## Replies in front -/

/-- The same members with some more replies in front of the available ones. -/
def Stage.prepend (front : List Reply) (s : Stage) : Stage :=
  { s with availableReplies := front ++ s.availableReplies }

/-- The replies that are available do not matter to the turns of `build_reply`. -/
theorem Stage.buildReply_prepend (front : List Reply) (s : Stage) (x : Bytes) :
    (s.prepend front).buildReply x = (s.buildReply x).map (prepend front) := by
  unfold buildReply
  split
  · rfl
  · unfold feedCurrent
    dsimp only [prepend]
    cases takeBuilder s.builder x with
    | error e => rfl
    | ok p =>
      obtain ⟨b, x'⟩ := p
      dsimp only
      rcases b.feed x' with ⟨b', r, e | ⟨⟩⟩
      · rfl
      · dsimp only
        by_cases hr : b'.replyReady = false
        · rw [if_pos hr, if_pos hr]
          rfl
        · rw [if_neg hr, if_neg hr]
          simp [Turn.map, prepend, addReply]

namespace ReplyBuilder

/-- The same builder with some more replies in front of the available ones. -/
def prepend (front : List Reply) (s : ReplyBuilder) : ReplyBuilder :=
  { s with toStage := s.toStage.prepend front }

theorem availableReplies_prepend {s : ReplyBuilder} (h : s.availableReplies = []) (front : List Reply) :
    (s.prepend front).availableReplies = front := by
  show front ++ s.availableReplies = front
  rw [h, List.append_nil]

theorem feed_prepend (front : List Reply) (s : ReplyBuilder) (data : Bytes) :
    (s.prepend front).feed data = ((s.feed data).1.prepend front, (s.feed data).2) := by
  have hrun := run_map Stage.progress_buildReply (Stage.prepend front)
    (Stage.buildReply_prepend front) s.toStage (s.buffer ++ data)
  unfold feed prepend
  dsimp only
  rw [hrun]
  rfl

theorem feedAll_prepend (front : List Reply) (s : ReplyBuilder) (chunks : List Bytes) :
    (s.prepend front).feedAll chunks =
      ((s.feedAll chunks).1.prepend front, (s.feedAll chunks).2) := by
  induction chunks generalizing s with
  | nil => rfl
  | cons data chunks ih =>
    unfold feedAll
    rw [feed_prepend]
    rcases s.feed data with ⟨s', e | ⟨⟩⟩
    · rfl
    · exact ih s'

/-! ## Histories -/

/-- A call on a `reply_builder`. -/
inductive Call
  | feed (data : Bytes)
  | popFront

/-- The state after a call, whether it returns or throws. -/
def call (s : ReplyBuilder) : Call → ReplyBuilder
  | .feed data => (s.feed data).1
  | .popFront => s.popFront.1

/-- The state of a new builder after a history of calls. -/
def after (history : List Call) : ReplyBuilder :=
  history.foldl call {}

/-- Whatever is fed from now on makes available what it makes available to a new
builder, with the same verdict. -/
def Forgets (s : ReplyBuilder) : Prop :=
  ∀ chunks : List Bytes,
    (s.feedAll chunks).1.availableReplies = (feedAll {} chunks).1.availableReplies ∧
      (s.feedAll chunks).2 = (feedAll {} chunks).2

/-- `reset` leaves a new builder behind the replies that were ready. -/
theorem reset_eq (s : ReplyBuilder) : s.reset = prepend s.availableReplies {} := by
  simp [reset, prepend, Stage.prepend]

/-- After `reset`, the replies left over come first, and then those of the stream. -/
theorem feedAll_reset (s : ReplyBuilder) (chunks : List Bytes) :
    (s.reset.feedAll chunks).1.availableReplies =
        s.availableReplies ++ (feedAll {} chunks).1.availableReplies ∧
      (s.reset.feedAll chunks).2 = (feedAll {} chunks).2 := by
  rw [reset_eq, feedAll_prepend]
  exact ⟨rfl, rfl⟩

/-- After any history, `reset` forgets it if and only if no reply is waiting. -/
theorem forgets_reset_iff (history : List Call) :
    Forgets (after history).reset ↔ (after history).availableReplies = [] := by
  constructor
  · intro h
    exact (h []).1
  · intro h chunks
    obtain ⟨hs, ho⟩ := feedAll_reset (after history) chunks
    rw [h, List.nil_append] at hs
    exact ⟨hs, ho⟩

/-- A reply and a byte that no reply starts with, in one packet: the call throws
and the connection is reset, but the reply stays, and answers the first command
of the next connection. -/
theorem not_forgets_reset :
    ¬ ∀ history : List Call, Forgets (after history).reset := by
  intro h
  have := (h [.feed (ascii "+OK\r\n!")] [ascii ":1\r\n"]).1
  exact absurd (congrArg List.length this) (by decide)

end ReplyBuilder

end CppRedis
