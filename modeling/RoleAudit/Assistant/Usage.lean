import RoleAudit.Decimal.Fixed
import RoleAudit.Decimal.Numeral
import RoleAudit.Decimal.Whole
import RoleAudit.Json.Value

/-!
# Usage of an assistant

Calls, the tokens that they take and give, and what they cost.

- `Usage`: totals;
- `Usage.record`: the totals after one more call;
- `Usage.summary`, `callReport`: totals and a single call in words.
-/

namespace RoleAudit

/-- Totals of calls. -/
structure Usage where
  calls : Int
  inputTokens : Int
  outputTokens : Int
  /-- Dollars. -/
  cost : Float

/-- The dollars for a million tokens that a call takes. -/
def inputPrice : Float := 3.0

/-- The dollars for a million tokens that a call gives. -/
def outputPrice : Float := 15.0

def costOf (input output : Int) : Float :=
  (Decimal.floatOfInt input * inputPrice + Decimal.floatOfInt output * outputPrice) / 1000000.0

namespace Usage

def zero : Usage := ⟨0, 0, 0, 0.0⟩

def totalTokens (u : Usage) : Int :=
  u.inputTokens + u.outputTokens

/-- The totals after one more call. -/
def record (u : Usage) (input output : Int) : Usage :=
  ⟨u.calls + 1, u.inputTokens + input, u.outputTokens + output, u.cost + costOf input output⟩

def toJson (u : Usage) : Json :=
  .obj [("calls", .int u.calls), ("input_tokens", .int u.inputTokens),
    ("output_tokens", .int u.outputTokens), ("total_cost", .float u.cost),
    ("total_tokens", .int u.totalTokens)]

/-- A line across. -/
def rule : String := String.ofList (List.replicate 60 '=')

/-- The totals in the words of a tool. -/
def summary (u : Usage) (tool : String) : String :=
  let counts :=
    if u.calls == 0 then "No AI calls made (static oracle or nothing to resolve)\n"
    else
      "Oracle calls:       " ++ Decimal.intText u.calls ++ "\n" ++
        "Tokens:             " ++ Decimal.grouped u.inputTokens ++ " in / " ++
        Decimal.grouped u.outputTokens ++ " out\n" ++
        "Total cost:         $" ++ Decimal.fixedText 4 u.cost ++ "\n"
  "\n" ++ rule ++ "\nAI USAGE SUMMARY - " ++ tool ++ "\n" ++ rule ++ "\n" ++ counts ++ rule ++
    "\n\n"

end Usage

/-- One call in words. -/
def callReport (source : String) (input output : Int) : String :=
  s!"[AI TOKENS] {source}: " ++ Decimal.grouped input ++ " in + " ++ Decimal.grouped output ++
    " out\n[AI COST] This call: $" ++ Decimal.fixedText 4 (costOf input output) ++ "\n"

end RoleAudit
