import HciTransport.Error.Hci

/-!
# How a command ends

A command that fails says what it was doing, what went wrong, and what that was caused by, each on
the ground of the next.
-/

namespace HciTransport.CommandLine

inductive Outcome where
  | success
  /-- What the command was doing or what went wrong, and the causes of it, nearest first. -/
  | failure (what : String) (causes : List String)
  /-- A count that makes no sense: the command breaks off where it stands. -/
  | crashed
  /-- The command would still be at work. -/
  | unfinished
  deriving DecidableEq, Repr

namespace Outcome

/-- An error and its causes. -/
def ofError (error : HciError) : Outcome := .failure error.message (error.cause?.map (·.text)).toList

/-- An error in the middle of something. -/
def during (what : String) (error : HciError) : Outcome :=
  .failure what (error.message :: (error.cause?.map (·.text)).toList)

/-- The exit status, once there is one. -/
def status? : Outcome → Option Nat
  | .success => some 0
  | .failure _ _ => some 1
  | .crashed => some 101
  | .unfinished => none

/-- Causes under their heading, numbered if there is more than one. -/
def causeLines : List String → List String
  | [] => []
  | [cause] => ["", "Caused by:", "    " ++ cause]
  | causes => ["", "Caused by:"] ++
      causes.zipIdx.map fun (cause, i) => "    " ++ toString i ++ ": " ++ cause

/-- What is said about a failure, line by line. -/
def report : Outcome → List String
  | .failure what causes => ("Error: " ++ what) :: causeLines causes
  | _ => []

end Outcome

/-- The exit status for a command line that makes no sense. -/
def usageStatus : Nat := 2

end HciTransport.CommandLine
