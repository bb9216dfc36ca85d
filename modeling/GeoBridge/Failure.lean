import GeoBridge.Configuration.Document
import GeoBridge.Fault
import GeoBridge.Text.ShellWord

/-!
Owns the failures of the library: their causes, their wording, and what a caller can learn from
them.

Owns:
- the causes by which conversions, coordinate systems and tool families fail;
- one type for everything an action of the library can end with instead of a value;
- the label under which a failure is reported, and its exit code.
-/

namespace GeoBridge

/-- Why a conversion failed. -/
inductive ConversionFault where
  | unsuccessful (executable : String) (exitCode : Int) (command : List String) (output : String)
  | timedOut (executable : String) (limit : Option Limit) (command : List String)
      (output : String)
  | notStarted (executable : String) (cause : SystemFault) (command : List String)
  | sideFile (executable directory : String) (cause : SystemFault) (command : List String)
  | reported (message : String)
deriving DecidableEq, Repr

/-- Why a coordinate system has no text. -/
inductive CrsFault where
  | invalid (shown reason : String)
  | noText (shown : String)
deriving DecidableEq, Repr

/-- Why a tool family is not available. -/
inductive FamilyFault where
  | blankName
  | unknown (name : String) (available : List String)
  | unloadable (path : String)
  | notImported (module reason : String)
  | exposesNothing
  | reported (message : String)
deriving DecidableEq, Repr

/-- What an action can end with instead of a value. -/
inductive Failure where
  | rejected (rejection : Configuration.Rejection)
  | irregularSource (message : String)
  | invalid (issues : List Validation.Issue)
  | undecoded (problem : Xml.EncodingProblem)
  | unprobed (executable : String) (cause : Fault)
  | family (cause : FamilyFault)
  | unsupportedFormat (name : String) (available : List String)
  | conversion (cause : ConversionFault)
  | crs (cause : CrsFault)
  | geodesy (reason : String)
  | lacksOperation (kind operation : String)
  | notText (kind : String)
  | notContentKind (shown : String)
  | unencodable
  | undecodable
  | outside (fault : Fault)
deriving DecidableEq, Repr

namespace ConversionFault

/-- The end of a message that shows the command and what it wrote. -/
def commandAndOutput (command : List String) (output : String) : String :=
  "Was trying to run: " ++ Text.shellLine command ++ "\nResulted in:\n" ++ output

/-- The wording of a limit that may be absent. -/
def limitText (limit : Option Limit) : String := (limit.map Limit.text).getD "None"

/-- The wording. -/
def message : ConversionFault → String
  | .unsuccessful executable exitCode command output =>
      executable ++ " did not terminate successfully, exit code " ++ toString exitCode ++ ". "
        ++ commandAndOutput command output
  | .timedOut executable limit command output =>
      executable ++ " did not complete within " ++ limitText limit ++ " seconds and was killed. "
        ++ commandAndOutput command output
  | .notStarted executable cause command =>
      "Could not run " ++ executable ++ ": " ++ cause.message ++ ". Was trying to run: "
        ++ Text.shellLine command
  | .sideFile executable directory cause _ =>
      "Could not write the CRS definition for " ++ executable ++ " into " ++ directory ++ ": "
        ++ cause.message
  | .reported message => message

/-- The exit code of the tool, where it ran to its end. -/
def exitCode? : ConversionFault → Option Int
  | .unsuccessful _ exitCode _ _ => some exitCode
  | _ => none

/-- The command, as far as it was known. -/
def command : ConversionFault → List String
  | .unsuccessful _ _ command _ | .timedOut _ _ command _ | .notStarted _ _ command
  | .sideFile _ _ _ command => command
  | .reported _ => []

/-- What the tool wrote. -/
def output : ConversionFault → String
  | .unsuccessful _ _ _ output | .timedOut _ _ _ output => output
  | _ => ""

end ConversionFault

/-- The wording of a fault of a coordinate system. -/
def CrsFault.message : CrsFault → String
  | .invalid shown reason => "Invalid CRS " ++ shown ++ ": " ++ reason
  | .noText shown => "CRS " ++ shown ++ " has no WKT representation."

/-- The wording of a fault of a tool family. -/
def FamilyFault.message : FamilyFault → String
  | .blankName => "Tool family must define a non-empty 'name'."
  | .unknown name available =>
      "Unknown tool family '" ++ name ++ "'. Available families: " ++ ", ".intercalate available
  | .unloadable path => "Unable to load family module from " ++ path ++ "."
  | .notImported module reason =>
      "Unable to import family module '" ++ module ++ "': " ++ reason
  | .exposesNothing =>
      "Family module must expose register_families(registry), FAMILIES, or FAMILY."
  | .reported message => message

/-- Some names, or a mark that there are none. -/
def listedOrNone (names : List String) : String :=
  if names.isEmpty then "<none>" else ", ".intercalate names

namespace Failure

/-- The failure that an unreadable configuration is. -/
def ofUnreadable : Configuration.Unreadable → Failure
  | .rejected rejection => .rejected rejection
  | .undecoded problem => .undecoded problem

/-- Whether a failure says that something is no configuration, as a document or as a source. -/
def rejectsConfiguration : Failure → Bool
  | .rejected _ | .irregularSource _ => true
  | _ => false

/-- A value that passed its checks, or its issues as a failure. -/
def ofChecked {α : Type} : Validation.Checked α → Except Failure α
  | .valid value => .ok value
  | .invalid issues => .error (.invalid issues)

/-- The wording. -/
def message : Failure → String
  | .rejected rejection => rejection.message
  | .irregularSource message => message
  | .invalid issues => Configuration.issuesMessage issues
  | .undecoded problem => problem.message
  | .unprobed executable cause =>
      "Could not run " ++ executable ++ " to list its formats: " ++ cause.message
  | .family cause => cause.message
  | .unsupportedFormat name available =>
      "Output format '" ++ name ++ "' is not supported. Available formats: "
        ++ listedOrNone available
  | .conversion cause => cause.message
  | .crs cause => cause.message
  | .geodesy reason => reason
  | .lacksOperation kind operation =>
      "'" ++ kind ++ "' object has no attribute '" ++ operation ++ "'"
  | .notText kind => "expected string or bytes-like object, got '" ++ kind ++ "'"
  | .notContentKind shown => shown ++ " is not a valid OutputType"
  | .unencodable => "surrogates not allowed"
  | .undecodable => "invalid octets"
  | .outside fault => fault.message

/-- The label of the failures that are reported to users of the command line. All others end the
program. -/
def label? : Failure → Option String
  | .rejected _ => some "ConfigLoadError"
  | .irregularSource _ => some "ConfigSourceError"
  | .unprobed _ _ => some "CapabilityProbeError"
  | .family _ => some "FamilyError"
  | .unsupportedFormat _ _ => some "UnsupportedFormatError"
  | .conversion _ => some "ConversionError"
  | .crs _ => some "CrsError"
  | _ => none

/-- The exit code of the tool that failed, where there is one. -/
def exitCode? : Failure → Option Int
  | .conversion cause => cause.exitCode?
  | _ => none

/-- A fault of the operating system as a failure. -/
def system (fault : SystemFault) : Failure := .outside (.system fault)

end Failure

/-- The kind of content that a value names. -/
def ContentKind.ofPayload (value : Payload) : Except Failure ContentKind :=
  let found := match value with
    | .text name => ContentKind.read? name
    | _ => none
  match found with
  | some kind => .ok kind
  | none => .error (.notContentKind value.shown)

end GeoBridge
