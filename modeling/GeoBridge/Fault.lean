import GeoBridge.Decimal.Shortest
import GeoBridge.Payload
import GeoBridge.Text.Quoted
import GeoBridge.Text.Utf8

/-!
Owns what can go wrong outside of the library: in the operating system and in child processes.

Owns:
- the conditions that the operating system reports, and their numbers;
- limits of time;
- faults and their wording.
-/

namespace GeoBridge

/-- A condition that the operating system reports. -/
inductive Condition where
  | missing
  | denied
  | exists
  | isDirectory
  | notDirectory
  | wouldBlock
  | brokenPipe
  | noChild
  | connectionAborted
  | connectionRefused
  | connectionReset
  | interrupted
  | noProcess
  | timedOut
  | connection
  | general
deriving DecidableEq, Repr

/-- The conditions that have numbers of their own. -/
def Condition.numbers : List (Int × Condition) :=
  [(1, .denied), (2, .missing), (3, .noProcess), (4, .interrupted), (10, .noChild),
   (11, .wouldBlock), (13, .denied), (17, .exists), (20, .notDirectory), (21, .isDirectory),
   (32, .brokenPipe), (103, .connectionAborted), (104, .connectionReset), (108, .brokenPipe),
   (110, .timedOut), (111, .connectionRefused), (114, .wouldBlock), (115, .wouldBlock)]

/-- The condition with the given number. -/
def Condition.ofNumber (number : Int) : Condition :=
  (Condition.numbers.lookup number).getD .general

/-- How a fault of the operating system was described: not at all, by a text, or by its number and
reason, with the files it is about in the form in which they are shown. -/
inductive Description where
  | none
  | plain (text : String)
  | numbered (number reason : String) (files : List String)
deriving DecidableEq, Repr

/-- A fault of the operating system. -/
structure SystemFault where
  condition : Condition
  description : Description
deriving DecidableEq, Repr

namespace SystemFault

/-- The condition of a fault that was raised with a number. A general condition is made out by its
number, for which a truth value may stand. -/
def conditionOf (condition : Condition) (number : Payload) : Condition :=
  match condition, number with
  | .general, .integer value => .ofNumber value
  | .general, .truth value => .ofNumber (if value then 1 else 0)
  | _, _ => condition

/-- Whether a value tells how much was done before an operation would have had to wait. -/
def countsOctets (condition : Condition) : Payload → Bool
  | .integer _ | .truth _ => condition == .wouldBlock
  | _ => false

/-- The files that a fault is about, as they are given after its number and reason: one, or two
with something between them that does not count. -/
def filesOf (condition : Condition) : List Payload → List Payload
  | [] | .null :: _ => []
  | first :: rest =>
      if countsOctets condition first then []
      else
        match rest with
        | _ :: second :: _ => if second matches .null then [first] else [first, second]
        | _ => [first]

/-- The fault of a condition that was raised with the given arguments: a number and a reason,
perhaps with files, or anything else, which is shown. -/
def ofArguments (condition : Condition) (arguments : List Payload) : SystemFault :=
  match arguments with
  | [] => ⟨condition, .none⟩
  | number :: reason :: rest =>
      if 3 < rest.length then ⟨condition, .plain (Payload.argumentsText arguments)⟩
      else
        let found := conditionOf condition number
        ⟨found, .numbered number.asText reason.asText ((filesOf found rest).map Payload.shown)⟩
  | [single] => ⟨condition, .plain single.asText⟩

/-- The wording of a fault of the operating system. -/
def message (fault : SystemFault) : String :=
  match fault.description with
  | .none => ""
  | .plain text => text
  | .numbered number reason files =>
      "[Errno " ++ number ++ "] " ++ reason
        ++ (if files.isEmpty then "" else ": " ++ " -> ".intercalate files)

/-- The fault of an operation on a file. -/
def ofFile (number : Nat) (reason : String) (file : String) : SystemFault :=
  ⟨Condition.ofNumber number, .numbered (toString number) reason [Text.quoted file]⟩

/-- There is no such file. -/
def noSuchFile (file : String) : SystemFault := ofFile 2 "No such file or directory" file

/-- A part of a path that should be a directory is none. -/
def notADirectory (file : String) : SystemFault := ofFile 20 "Not a directory" file

/-- A name is longer than file systems allow. -/
def nameTooLong (file : String) : SystemFault := ofFile 36 "File name too long" file

/-- A directory stands where a file should. -/
def isADirectory (file : String) : SystemFault := ofFile 21 "Is a directory" file

/-- Something stands where something new should. -/
def alreadyExists (file : String) : SystemFault := ofFile 17 "File exists" file

/-- The device is full. -/
def deviceFull : SystemFault := ⟨.general, .numbered "28" "No space left on device" []⟩

end SystemFault

/-- A limit of time in seconds. -/
inductive Limit where
  | whole (seconds : Int)
  | fractional (seconds : Decimal.Binary64)
deriving DecidableEq, Repr

/-- The limit that a number is. -/
def Limit.ofPayload? : Payload → Option Limit
  | .integer seconds => some (.whole seconds)
  | .real seconds => some (.fractional seconds)
  | _ => none

/-- The text of a limit. -/
def Limit.text : Limit → String
  | .whole seconds => toString seconds
  | .fractional seconds => seconds.text

/-- What a process had written when it was stopped. -/
inductive Captured where
  | nothing
  | text (content : String)
  | octets (content : List UInt8)
deriving DecidableEq, Repr

/-- The text of what was captured. -/
def Captured.content : Captured → String
  | .nothing => ""
  | .text content => content
  | .octets content => Text.Utf8.decode content

/-- The signals by number. -/
def signalNames : List (Nat × String) :=
  [(1, "SIGHUP"), (2, "SIGINT"), (3, "SIGQUIT"), (4, "SIGILL"), (5, "SIGTRAP"), (6, "SIGABRT"),
   (7, "SIGBUS"), (8, "SIGFPE"), (9, "SIGKILL"), (10, "SIGUSR1"), (11, "SIGSEGV"),
   (12, "SIGUSR2"), (13, "SIGPIPE"), (14, "SIGALRM"), (15, "SIGTERM"), (16, "SIGSTKFLT"),
   (17, "SIGCHLD"), (18, "SIGCONT"), (19, "SIGSTOP"), (20, "SIGTSTP"), (21, "SIGTTIN"),
   (22, "SIGTTOU"), (23, "SIGURG"), (24, "SIGXCPU"), (25, "SIGXFSZ"), (26, "SIGVTALRM"),
   (27, "SIGPROF"), (28, "SIGWINCH"), (29, "SIGIO"), (30, "SIGPWR"), (31, "SIGSYS"),
   (34, "SIGRTMIN"), (64, "SIGRTMAX")]

/-- How a file that is to hold a module is flawed: it is of no use here, it ends too early, or it
makes no sense. -/
inductive ModuleFlaw where
  | unusable
  | truncated
  | garbled
deriving DecidableEq, Repr

/-- What a process or the system around it raises instead of an outcome. Faults of a kind that the
library gives no meaning to carry the name of that kind. -/
inductive Fault where
  | system (fault : SystemFault)
  | timedOut (command limit : String) (captured : Captured)
  | exited (status : Int) (command : String)
  | subprocess (message : String)
  | nullCharacter
  | illegalVariable
  | emptyCommand
  | flawedModule (flaw : ModuleFlaw) (message : String)
  | other (kind message : String)
deriving DecidableEq, Repr

/-- The status that a number stands for: a fraction does not count. -/
def statusOf? : Payload → Option Int
  | .integer status => some status
  | .truth value => some (if value then 1 else 0)
  | .real value => value.truncated?
  | _ => none

/-- The wording of the end of a process that did not succeed. A negative status is a signal. -/
def exitMessage (status : Int) (command : String) : String :=
  if status < 0 then
    let number := status.natAbs
    match signalNames.lookup number with
    | some name =>
        "Command '" ++ command ++ "' died with <Signals." ++ name ++ ": " ++ toString number ++ ">."
    | none =>
        "Command '" ++ command ++ "' died with unknown signal " ++ toString number ++ "."
  else
    "Command '" ++ command ++ "' returned non-zero exit status " ++ toString status ++ "."

/-- The wording of a fault. -/
def Fault.message : Fault → String
  | .system fault => fault.message
  | .timedOut command limit _ =>
      "Command '" ++ command ++ "' timed out after " ++ limit ++ " seconds"
  | .exited status command => exitMessage status command
  | .subprocess message => message
  | .nullCharacter => "embedded null byte"
  | .illegalVariable => "illegal environment variable name"
  | .emptyCommand => "list index out of range"
  | .flawedModule _ message => message
  | .other _ message => message

/-- Whether a fault is one of running a process at all, or of how the process ended. -/
def Fault.concernsProcess : Fault → Bool
  | .nullCharacter | .illegalVariable | .emptyCommand | .flawedModule _ _ | .other _ _ => false
  | _ => true

end GeoBridge
