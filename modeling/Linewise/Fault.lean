import Linewise.Json
import Linewise.Text.Codec

/-! Faults: everything that can stop a computation. A fault belongs to a class, classes form a hierarchy,
and each fault has one message. A failed stage of a run is itself a fault, with the fault that caused it.
-/
namespace Linewise

inductive FaultClass
  | general
  | system
  | missingFile
  | fileExists
  | isDirectory
  | notDirectory
  | permission
  | missingProcess
  | interrupted
  | childProcess
  | blocking
  | brokenPipe
  | connectionAborted
  | connectionRefused
  | connectionReset
  | timeout
  | value
  | unicode
  | undecodable
  | unencodable
  | integer
  | settings
  | lookup
  | key
  | index
  | arithmetic
  | zeroDivision
  | overflow
  | memory
  | runtime
  | recursion
  | type
  | missingAttribute
  | document
  | failure
  | argumentMissing
  | openFailed
  | readFailed
  | parseFailed
  deriving DecidableEq, Repr

namespace FaultClass

def name : FaultClass → String
  | general => "Exception"
  | system => "OSError"
  | missingFile => "FileNotFoundError"
  | fileExists => "FileExistsError"
  | isDirectory => "IsADirectoryError"
  | notDirectory => "NotADirectoryError"
  | permission => "PermissionError"
  | missingProcess => "ProcessLookupError"
  | interrupted => "InterruptedError"
  | childProcess => "ChildProcessError"
  | blocking => "BlockingIOError"
  | brokenPipe => "BrokenPipeError"
  | connectionAborted => "ConnectionAbortedError"
  | connectionRefused => "ConnectionRefusedError"
  | connectionReset => "ConnectionResetError"
  | timeout => "TimeoutError"
  | value => "ValueError"
  | unicode => "UnicodeError"
  | undecodable => "UnicodeDecodeError"
  | unencodable => "UnicodeEncodeError"
  | integer => "IntegerParseError"
  | settings => "SettingsError"
  | lookup => "LookupError"
  | key => "KeyError"
  | index => "IndexError"
  | arithmetic => "ArithmeticError"
  | zeroDivision => "ZeroDivisionError"
  | overflow => "OverflowError"
  | memory => "MemoryError"
  | runtime => "RuntimeError"
  | recursion => "RecursionError"
  | type => "TypeError"
  | missingAttribute => "AttributeError"
  | document => "YAMLError"
  | failure => "PipelineError"
  | argumentMissing => "ArgumentMissingError"
  | openFailed => "FileOpenFailedError"
  | readFailed => "LineReadFailedError"
  | parseFailed => "ParseFailedError"

/-- The classes a class lies in, from itself to the general one. -/
def lineage : FaultClass → List FaultClass
  | general => [general]
  | system => [system, general]
  | missingFile => [missingFile, system, general]
  | fileExists => [fileExists, system, general]
  | isDirectory => [isDirectory, system, general]
  | notDirectory => [notDirectory, system, general]
  | permission => [permission, system, general]
  | missingProcess => [missingProcess, system, general]
  | interrupted => [interrupted, system, general]
  | childProcess => [childProcess, system, general]
  | blocking => [blocking, system, general]
  | brokenPipe => [brokenPipe, system, general]
  | connectionAborted => [connectionAborted, system, general]
  | connectionRefused => [connectionRefused, system, general]
  | connectionReset => [connectionReset, system, general]
  | timeout => [timeout, system, general]
  | value => [value, general]
  | unicode => [unicode, value, general]
  | undecodable => [undecodable, unicode, value, general]
  | unencodable => [unencodable, unicode, value, general]
  | integer => [integer, value, general]
  | settings => [settings, value, general]
  | lookup => [lookup, general]
  | key => [key, lookup, general]
  | index => [index, lookup, general]
  | arithmetic => [arithmetic, general]
  | zeroDivision => [zeroDivision, arithmetic, general]
  | overflow => [overflow, arithmetic, general]
  | memory => [memory, general]
  | runtime => [runtime, general]
  | recursion => [recursion, runtime, general]
  | type => [type, general]
  | missingAttribute => [missingAttribute, general]
  | document => [document, general]
  | failure => [failure, general]
  | argumentMissing => [argumentMissing, failure, general]
  | openFailed => [openFailed, failure, general]
  | readFailed => [readFailed, failure, general]
  | parseFailed => [parseFailed, failure, general]

/-- Does every fault of the first class belong to the second? -/
def isA (kind other : FaultClass) : Bool := kind.lineage.contains other

def all : List FaultClass := [
  general, system, missingFile, fileExists, isDirectory, notDirectory, permission, missingProcess,
  interrupted, childProcess, blocking, brokenPipe, connectionAborted, connectionRefused, connectionReset,
  timeout, value, unicode, undecodable, unencodable, integer, settings, lookup, key, index, arithmetic,
  zeroDivision, overflow, memory, runtime, recursion, type, missingAttribute, document, failure, argumentMissing,
  openFailed, readFailed, parseFailed]

def named? (name : String) : Option FaultClass := all.find? (·.name = name)

/-- The class of system faults with an error number. -/
def ofErrno : Int → FaultClass
  | 1 | 13 => permission
  | 2 => missingFile
  | 3 => missingProcess
  | 4 => interrupted
  | 10 => childProcess
  | 11 | 114 | 115 => blocking
  | 17 => fileExists
  | 20 => notDirectory
  | 21 => isDirectory
  | 32 | 108 => brokenPipe
  | 103 => connectionAborted
  | 104 => connectionReset
  | 110 => timeout
  | 111 => connectionRefused
  | _ => system

end FaultClass

/-- A detail given with a fault. What is written already is not quoted again. -/
inductive Detail
  | text (s : String)
  | written (s : String)
  | int (n : Int)
  | none
  deriving DecidableEq, Repr

namespace Detail

def plain : Detail → String
  | text s | written s => s
  | int n => toString n
  | none => "None"

def quoted : Detail → String
  | text s => Text.quote s
  | written s => s
  | int n => toString n
  | none => "None"

/-- Is there anything to show? -/
def isFilled : Detail → Bool
  | text s | written s => s ≠ ""
  | int n => n ≠ 0
  | none => false

def toJson : Detail → Json
  | text s | written s => .text s
  | int n => .int n
  | none => .null

/-- Several details are listed in brackets. -/
def list : List Detail → String
  | [] => ""
  | [detail] => detail.plain
  | details => "(" ++ ", ".intercalate (details.map quoted) ++ ")"

end Detail

/-- What the system said: the error's number and text, and the files it happened to. -/
structure SystemNote where
  number : Detail
  reason : Detail
  file : Option Detail
  target : Option Detail

namespace SystemNote

def given : Option Detail → Option Detail
  | some .none => none
  | detail => detail

/-- Two to five details make a note; the fourth is not used. A blocked operation has a count, not a file, in
the third place. -/
def ofDetails? (kind : FaultClass) (details : List Detail) : Option SystemNote :=
  match details with
  | number :: reason :: rest =>
    if kind.isA .system && rest.length ≤ 3 then
      let file :=
        match kind, given rest.head? with
        | .blocking, some (.int _) => none
        | _, file => file
      some ⟨number, reason, file, if file.isSome then given rest[2]? else none⟩
    else none
  | _ => none

def message (note : SystemNote) : String :=
  "[Errno " ++ note.number.plain ++ "] " ++ note.reason.plain ++
    match note.file, note.target with
    | some file, some target => ": " ++ file.quoted ++ " -> " ++ target.quoted
    | some file, none => ": " ++ file.quoted
    | none, _ => ""

end SystemNote

inductive IntegerFlaw
  | empty
  | invalidDigit
  | tooLarge
  | tooSmall
  deriving DecidableEq, Repr

def IntegerFlaw.message : IntegerFlaw → String
  | empty => "cannot parse integer from empty string"
  | invalidDigit => "invalid digit found in string"
  | tooLarge => "number too large to fit in target type"
  | tooSmall => "number too small to fit in target type"

/-- The stage of a run that failed, with what it worked on. Lines are numbered; a text without a line
number is an argument. -/
inductive Stage
  | argument (name : String)
  | opening (path : String)
  | reading (path : String) (line : Option Int)
  | parsing (line : Option Int) (text : String)
  deriving DecidableEq, Repr

namespace Stage

def kind : Stage → String
  | argument _ => "ARGUMENT_MISSING"
  | opening _ => "FILE_OPEN_FAILED"
  | reading _ _ => "LINE_READ_FAILED"
  | parsing _ _ => "PARSE_FAILED"

def faultClass : Stage → FaultClass
  | argument _ => .argumentMissing
  | opening _ => .openFailed
  | reading _ _ => .readFailed
  | parsing _ _ => .parseFailed

def lineText : Option Int → String
  | none => "None"
  | some n => toString n

/-- The diagnostic of a stage that failed for a reason. -/
def message (reason : String) : Stage → String
  | argument name => "Not enough arguments: expected " ++ name
  | opening path => "Could not open file " ++ path ++ ": " ++ reason
  | reading path line => "Error reading file " ++ path ++ " at line " ++ lineText line ++ ": " ++ reason
  | parsing none text => "Could not parse argument " ++ Text.quote text ++ ": " ++ reason
  | parsing (some n) text =>
    "Error parsing line " ++ toString n ++ " (" ++ Text.quote text ++ "): " ++ reason

def fields : Stage → List (String × Json)
  | argument name => [("name", .text name)]
  | opening path => [("path", .text path)]
  | reading path line => [("path", .text path), ("line_no", Json.optional .int line)]
  | parsing line text => [("line_no", Json.optional .int line), ("line", .text text)]

end Stage

inductive Fault
  | plain (kind : FaultClass) (details : List Detail)
  | undecodable (cause : Text.Undecodable)
  | integer (flaw : IntegerFlaw) (text : String)
  | failed (stage : Stage) (cause : Option Fault)
  deriving Repr

instance : Inhabited Fault := ⟨.plain .general []⟩

namespace Fault

def kind : Fault → FaultClass
  | plain kind _ => kind
  | undecodable _ => .undecodable
  | integer _ _ => .integer
  | failed stage _ => stage.faultClass

def isA (fault : Fault) (kind : FaultClass) : Bool := fault.kind.isA kind

def plainMessage (kind : FaultClass) (details : List Detail) : String :=
  match SystemNote.ofDetails? kind details, kind, details with
  | some note, _, _ => note.message
  | none, .key, [detail] => detail.quoted
  | none, _, _ => Detail.list details

/-- The reason the system itself gives, if it gives one. -/
def systemReason? : Fault → Option Detail
  | plain kind details =>
    match SystemNote.ofDetails? kind details with
    | some note => if note.reason.isFilled then some note.reason else none
    | none => none
  | _ => none

/-- How a fault with this message is described as a cause: by the system's own words, by its message, or by
its class. -/
def describeBy (fault : Fault) (message : String) : Detail :=
  match fault.systemReason? with
  | some reason => reason
  | none => if message = "" then .text fault.kind.name else .text message

def message : Fault → String
  | plain kind details => plainMessage kind details
  | undecodable cause => cause.message
  | integer flaw _ => flaw.message
  | failed stage none => stage.message "None"
  | failed stage (some cause) => stage.message (cause.describeBy cause.message).plain

def describe (fault : Fault) : Detail := fault.describeBy fault.message

def value (message : String) : Fault := plain .value [.text message]
def lookup (message : String) : Fault := plain .lookup [.text message]
def settings (message : String) : Fault := plain .settings [.text message]

/-- A system fault; its class follows from the error number. -/
def system (details : List Detail) : Fault :=
  match details with
  | .int number :: _ :: rest => if rest.length ≤ 3 then plain (.ofErrno number) details else plain .system details
  | _ => plain .system details

end Fault

/-- A failed stage with its cause. -/
structure Failure where
  stage : Stage
  cause : Option Fault
  deriving Repr

namespace Failure

def toFault (failure : Failure) : Fault := .failed failure.stage failure.cause

def ofFault? : Fault → Option Failure
  | .failed stage cause => some ⟨stage, cause⟩
  | _ => none

def kind (failure : Failure) : String := failure.stage.kind

/-- The one line in which a failure is reported. -/
def message (failure : Failure) : String := failure.toFault.message

def causeJson (failure : Failure) : Json := Json.optional (fun cause => cause.describe.toJson) failure.cause

def toJson (failure : Failure) : Json :=
  .object ([("kind", .text failure.kind), ("message", .text failure.message), ("cause", failure.causeJson)] ++
    failure.stage.fields)

end Failure

/-- A failure as it was announced: later corrections of its fields leave the announcement as it was. -/
structure Incident where
  failure : Failure
  announced : String
  deriving Repr

def Incident.of (failure : Failure) : Incident := ⟨failure, failure.message⟩

/-- A correction of one field. -/
inductive Correction
  | name (name : String)
  | path (path : String)
  | line (number : Option Int)
  | text (text : String)
  | cause (cause : Option Fault)

/-- A field that the stage lacks cannot be corrected. -/
def Stage.correct (stage : Stage) (correction : Correction) : Stage :=
  match stage, correction with
  | argument _, .name name => argument name
  | opening _, .path path => opening path
  | reading _ line, .path path => reading path line
  | reading path _, .line line => reading path line
  | parsing _ text, .line line => parsing line text
  | parsing line _, .text text => parsing line text
  | stage, _ => stage

def Incident.correct (incident : Incident) (correction : Correction) : Incident :=
  let stage := incident.failure.stage.correct correction
  match correction with
  | .cause cause => { incident with failure := ⟨stage, cause⟩ }
  | _ => { incident with failure := { incident.failure with stage } }

end Linewise
