import LocaleMessage.CommandLine.Outcome
import LocaleMessage.Json.Printer
import LocaleMessage.Json.Reader
import LocaleMessage.Pattern.Parser

/-!
The command that checks catalogs: JSON objects whose values are patterns.
-/

namespace LocaleMessage.CommandLine

/-- A pattern that cannot be read. -/
structure PatternFailure where
  file : String
  key : String
  problem : Pattern.SyntaxError
deriving DecidableEq, Repr

/-- A failure as JSON. -/
def PatternFailure.toJson (f : PatternFailure) : Json :=
  .object [("file", .string f.file), ("key", .string f.key),
    ("line", .ofNat f.problem.position.line), ("column", .ofNat f.problem.position.column),
    ("offset", .ofNat f.problem.position.offset), ("message", .string f.problem.message),
    ("suggestions", .ofStrings (f.problem.suggestions.map (·.text)))]

/-- Puts a member in the order of the names. An older member of that name is replaced. -/
def insertMember (name : String) (value : Json) :
    List (String × Json) → List (String × Json)
  | [] => [(name, value)]
  | (other, old) :: rest =>
    if name < other then (name, value) :: (other, old) :: rest
    else if name = other then (name, value) :: rest
    else (other, old) :: insertMember name value rest

/-- The members of a catalog in the order of their names. -/
def readCatalog? (text : String) : Option (List (String × Json)) :=
  match Json.ofText? text with
  | some (.object members) =>
    some (members.foldl (fun kept (name, value) => insertMember name value kept) [])
  | _ => none

/-- What was found so far. -/
structure CheckReport where
  /-- The lines that tell of patterns in order. -/
  passed : List String
  checked : Nat
  failures : List PatternFailure
deriving DecidableEq, Repr

def colored (color : Nat) (text : String) : String :=
  "\x1b[" ++ String.ofList (decimalDigits color) ++ "m" ++ text ++ "\x1b[39m"

def green (text : String) : String := colored 32 text

def red (text : String) : String := colored 31 text

namespace CheckReport

def empty : CheckReport := ⟨[], 0, []⟩

/-- Checks a pattern of a catalog. -/
def addPattern (report : CheckReport) (file key pattern : String) : CheckReport :=
  match Pattern.parse pattern with
  | .ok _ =>
    { report with
      passed := report.passed ++ [green "ok" ++ " " ++ file ++ "#" ++ key]
      checked := report.checked + 1 }
  | .error problem =>
    { report with
      checked := report.checked + 1
      failures := report.failures ++ [⟨file, key, problem⟩] }

/-- Checks the members of a catalog up to the first that is no pattern. What was found before it
stays. -/
def addMembers (report : CheckReport) (file : String) :
    List (String × Json) → Except CheckReport CheckReport
  | [] => .ok report
  | (key, .string pattern) :: rest => addMembers (report.addPattern file key pattern) file rest
  | _ :: _ => .error report

/-- Checks files up to the first that is no catalog. -/
def addFiles (report : CheckReport) (read : String → Option String) :
    List String → Except CheckReport CheckReport
  | [] => .ok report
  | file :: rest =>
    match read file >>= readCatalog? with
    | none => .error report
    | some members =>
      match report.addMembers file members with
      | .ok report => addFiles report read rest
      | .error report => .error report

/-- The last line of a report. -/
def summary (report : CheckReport) : String :=
  let count (n : Nat) : String := String.ofList (decimalDigits n)
  if report.failures.isEmpty then
    green "✓" ++ " " ++ count report.checked ++ " patterns checked"
  else
    red "✗" ++ " " ++ count report.failures.length ++ " of " ++ count report.checked ++
      " patterns failed"

end CheckReport

/-- Checks catalogs. Patterns in order are told of only when that is asked for and the output is
not JSON. -/
def check (read : String → Option String) (files : List String) (json verbose : Bool) :
    Outcome :=
  let passed (report : CheckReport) : List String :=
    if verbose && !json then report.passed else []
  match CheckReport.empty.addFiles read files with
  | .error report => ⟨Outcome.failure, lines (passed report), ""⟩
  | .ok report =>
    let last := if json then (Json.array (report.failures.map (·.toJson))).text
      else report.summary
    ⟨if report.failures.isEmpty then Outcome.success else Outcome.dataError,
      lines (passed report ++ [last]), ""⟩

end LocaleMessage.CommandLine
