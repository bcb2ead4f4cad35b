import BracketToken.StringToken.IndexSource
import BracketToken.StringToken.Reader

/-!
The text that answers a request.

A line is the pool itself, which needs no index, or as many characters as asked for, each drawn
from the pool with an index of its own. Lines are drawn one after another.
-/

namespace BracketToken.StringToken

variable {σ : Type}

def drawLine (source : IndexSource σ) (pool : Array Char) (pos : 0 < pool.size) (n : Nat)
    (s : σ) : List Char × σ :=
  let drawn := collect (source.next pool.size pos) n s
  (drawn.1.map fun i => pool[i], drawn.2)

namespace Request

theorem pool_size_pos (r : Request) : 0 < r.pool.toArray.size := by
  simpa [pool] using List.length_pos_iff.2 r.pool_ne

/-- The lines of the text, and the state of the source after them. -/
def sampleLines (r : Request) (source : IndexSource σ) (s : σ) : List (List Char) × σ :=
  match r.length with
  | .all => (List.replicate r.lines r.pool, s)
  | .chars n => collect (drawLine source r.pool.toArray r.pool_size_pos n) r.lines s

/-- The text, its lines joined by line breaks, and the state of the source after it. -/
def sample (r : Request) (source : IndexSource σ) (s : σ) : String × σ :=
  let drawn := r.sampleLines source s
  (.ofList (lineBreak.intercalate drawn.1), drawn.2)

end Request

/-- Reads a token and draws its text. A token that is refused leaves the source as it is. -/
def drawText (source : IndexSource σ) (token : String) (s : σ) : Traced Error String × σ :=
  let reading := read token
  match reading.outcome with
  | .error e => (⟨reading.events, .error e⟩, s)
  | .ok r =>
    let drawn := r.sample source s
    (⟨reading.events ++ [.generatedString r.lines], .ok drawn.1⟩, drawn.2)

end BracketToken.StringToken
