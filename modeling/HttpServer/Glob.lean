/-!
Patterns in which a star stands for any run of items, possibly empty. The matcher is greedy: it
goes on from the last star it met, which takes one item more whenever the rest does not fit, and
never comes back to an earlier star.
-/

namespace HttpServer.Glob

variable {α : Type} [DecidableEq α]

inductive Advance (α : Type)
  | star (pattern text : List α)
  | finished
  | stuck

def advance (star : α) : List α → List α → Advance α
  | [], [] => .finished
  | [], _ :: _ => .stuck
  | item :: pattern, [] => if item = star then .star pattern [] else .stuck
  | item :: pattern, other :: text =>
    if item = star then .star pattern (other :: text)
    else if item = other then advance star pattern text
    else .stuck

theorem length_lt_of_advance {star : α} {pattern text restPattern restText : List α}
    (met : advance star pattern text = .star restPattern restText) :
    restPattern.length < pattern.length := by
  fun_induction advance star pattern text with
  | case1 => simp at met
  | case2 => simp at met
  | case3 => cases met; simp
  | case4 => simp at met
  | case5 => cases met; simp
  | case6 _ _ _ _ shorter => exact Nat.lt_succ_of_lt (shorter met)
  | case7 => simp at met

/-- Matches `pattern`, which stands behind a star, against every end of `text` in turn, and
commits to the first that reaches another star or the end of both. -/
def matchesBehindStar (star : α) (pattern text : List α) : Bool :=
  match _ : advance star pattern text with
  | .finished => true
  | .star restPattern restText => matchesBehindStar star restPattern restText
  | .stuck =>
    match text with
    | [] => false
    | _ :: rest => matchesBehindStar star pattern rest
termination_by (pattern.length, text.length)
decreasing_by
  · exact Prod.Lex.left _ _ (length_lt_of_advance ‹_›)
  · exact Prod.Lex.right _ (by simp)

def isMatch (star : α) (pattern text : List α) : Bool :=
  match advance star pattern text with
  | .finished => true
  | .star restPattern restText => matchesBehindStar star restPattern restText
  | .stuck => false

end HttpServer.Glob
