/-!
What a command leaves behind.
-/

namespace LocaleMessage.CommandLine

/-- The exit code of a run, and what it writes to its two outputs. The drawings of syntax errors
and the texts about usage are left to others. -/
structure Outcome where
  code : Nat
  output : String
  errors : String
deriving DecidableEq, Repr

namespace Outcome

def success : Nat := 0

/-- The arguments make no sense. -/
def usageError : Nat := 2

/-- The data is wrong in itself. -/
def dataError : Nat := 65

/-- The command cannot do its work. -/
def failure : Nat := 70

end Outcome

/-- Lines of text, each with its end. -/
def lines (ls : List String) : String :=
  ls.foldl (fun text l => text ++ l ++ "\n") ""

end LocaleMessage.CommandLine
