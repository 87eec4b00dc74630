import Mathlib.Data.List.Basic

/-!
# Services

A service takes requests one at a time. Its history is the list of the requests that it
took, each with the response to it: what a client of the service may see, whatever stands
between the two, is judged by it.

* `history_concat`: one more request is one more entry, and the entries before stay.
* `Delivers`: responses were delivered that the service gave, each once and in its order.
  `Delivers.serve` and `Delivers.lose` are how this is kept when the service goes on and
  when responses are lost.
-/

/-- A state that requests change, and what the response to each of them is. -/
structure Service (τ req res : Type) where
  initial : τ
  serve : τ → req → τ × res

namespace Service

variable {τ req res : Type} (s : Service τ req res)

/-- The state after some requests. -/
def state (requests : List req) : τ :=
  requests.foldl (fun t r => (s.serve t r).1) s.initial

/-- The response to a request, after some others. -/
def respond (requests : List req) (r : req) : res :=
  (s.serve (s.state requests) r).2

/-- The requests from a state on, with the responses to them. -/
def historyFrom : τ → List req → List (req × res)
  | _, [] => []
  | t, r :: requests => (r, (s.serve t r).2) :: historyFrom (s.serve t r).1 requests

/-- The requests with the responses to them. -/
def history (requests : List req) : List (req × res) :=
  s.historyFrom s.initial requests

/-- The last request was answered in the state that the others led to. -/
theorem history_concat (requests : List req) (r : req) :
    s.history (requests ++ [r]) = s.history requests ++ [(r, s.respond requests r)] := by
  unfold history respond state
  generalize s.initial = t
  induction requests generalizing t with
  | nil => rfl
  | cons r' requests ih => exact congrArg ((r', (s.serve t r').2) :: ·) (ih _)

/-- The pairs of a request and a response are some of the history, in their order. -/
def Delivers (requests : List req) (pairs : List (req × res)) : Prop :=
  pairs.Sublist (s.history requests)

namespace Delivers

variable {s} {requests : List req} {pairs pairs' : List (req × res)}

theorem nil : s.Delivers requests [] :=
  List.nil_sublist _

/-- A request is served and its response is on its way. -/
theorem serve (h : s.Delivers requests pairs) (r : req) :
    s.Delivers (requests ++ [r]) (pairs ++ [(r, s.respond requests r)]) := by
  unfold Delivers
  rw [history_concat]
  exact h.append_right _

/-- A request is served and nobody waits for its response. -/
theorem ignore (h : s.Delivers requests pairs) (r : req) : s.Delivers (requests ++ [r]) pairs := by
  unfold Delivers
  rw [history_concat]
  exact h.trans (List.sublist_append_left _ _)

/-- Some of the responses are lost. -/
theorem lose (h : s.Delivers requests pairs) (hpairs : pairs'.Sublist pairs) :
    s.Delivers requests pairs' :=
  List.Sublist.trans hpairs h

end Delivers

end Service
