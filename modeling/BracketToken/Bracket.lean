/-!
The brackets that every token is written in.

Main statement: `inner?_eq_some_iff`, a token has a body exactly when it is the body between one
pair of brackets and the body holds none.
-/

namespace BracketToken

/-- The words that open every message about a malformed token. -/
def malformedToken : String := "Invalid string token format"

namespace Bracket

def isBracket (c : Char) : Bool := c = '[' || c = ']'

/-- What stands between the one pair of brackets of a token. -/
def inner? : List Char → Option (List Char)
  | '[' :: rest =>
    if rest.getLast? = some ']' && !rest.dropLast.any isBracket then some rest.dropLast else none
  | _ => none

/-- The body is all that the brackets enclose, and it is no token itself. -/
theorem inner?_eq_some_iff {token body : List Char} :
    inner? token = some body ↔ token = '[' :: body ++ [']'] ∧ ∀ c ∈ body, isBracket c = false := by
  constructor
  · intro h
    unfold inner? at h
    split at h
    · next rest =>
      split at h
      · next hb =>
        cases h
        simp only [Bool.and_eq_true, decide_eq_true_eq, Bool.not_eq_true', List.any_eq_false] at hb
        refine ⟨?_, fun c hc => by simpa using hb.2 c hc⟩
        obtain ⟨init, rfl⟩ := List.getLast?_eq_some_iff.1 hb.1
        simp
      · cases h
    · cases h
  · rintro ⟨rfl, hb⟩
    simpa [inner?] using hb

end Bracket

end BracketToken
