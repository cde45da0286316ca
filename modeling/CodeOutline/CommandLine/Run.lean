import CodeOutline.CommandLine.Session

namespace CodeOutline.CommandLine

/-- What a command line comes to. -/
inductive Outcome where
  /-- The words do not make a command. -/
  | usage (error : UsageError)
  /-- The project cannot be set up, or a file of it not be found. -/
  | failed (error : SetupError)
  | finished (status : Nat) (out err : String)
  deriving DecidableEq

namespace Outcome

/-- A report: the status tells whether anything was found. -/
def reported (count : Nat) (out : String) : Outcome :=
  .finished (if count = 0 then 1 else 0) out ""

/-- What a stop comes to: a class that is not there is only not found. -/
def ofStop (stop : Stop) : Outcome :=
  match stop with
  | .failed error => .failed error
  | .unknownClass _ => .finished 1 "" (line stop)
  | _ => .finished 2 "" (line stop)
where
  line (stop : Stop) : String := "Error: " ++ stop.message?.getD "" ++ "\n"

/-- The status with which the program ends. -/
def status : Outcome → Nat
  | .usage .helpAsked | .usage .versionAsked => 0
  | .usage _ | .failed _ => 2
  | .finished status _ _ => status

end Outcome

/-- The report that a command makes of a session. -/
def Session.report (s : Session) (colours : Bool) : Command → Except Stop Outcome
  | .skeleton scope headerOnly => do
    let entries ← s.skeletons scope headerOnly
    return .reported entries.length
      (Report.ofSkeletons s.format colours s.path.text "skeleton" entries)
  | .classes file? => do listing "classes" "Classes" (← s.classes file?)
  | .search pattern => do
    listing "search" ("Matches for " ++ Text.quoted pattern) (← s.matching pattern)
  | .members className => do
    listing "members" ("Members of " ++ className) (← s.members className)
where
  listing (command title : String) (entries : List Report.Entry) : Except Stop Outcome :=
    return .reported entries.length
      (Report.ofEntries s.format colours s.path.text command title entries)

/-- Carries out a request. -/
def Request.run (request : Request) (disk : Disk) (directory : List String) (schedule : Schedule)
    (colours : Bool) : Outcome :=
  match Session.start disk directory schedule request.common >>=
      (·.report colours request.command) with
  | .ok outcome => outcome
  | .error stop => .ofStop stop

/-- Carries out a command line on a disk, seen from a directory. -/
def run (disk : Disk) (directory : List String) (schedule : Schedule) (colours : Bool)
    (words : List String) : Outcome :=
  match Request.ofWords words with
  | .ok request => request.run disk directory schedule colours
  | .error error => .usage error

end CodeOutline.CommandLine
