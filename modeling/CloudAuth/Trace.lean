import CloudAuth.Path

/-!
# Traces

What an operation does besides giving a result: records in the log, files read, sessions opened and
closed, requests on the network, and calls of the command line. A trace lists these events in their
order.
-/

namespace CloudAuth

/-- How important a log record is. -/
inductive LogLevel where
  /-- For those who look for errors. -/
  | debug
  /-- For everyone. -/
  | info
  deriving DecidableEq, Repr

/-- The name of a level. -/
def LogLevel.name : LogLevel → String
  | debug => "DEBUG"
  | info => "INFO"

/-- A record in the log. -/
structure LogRecord where
  /-- The level. -/
  level : LogLevel
  /-- The name of the log. -/
  logger : String
  /-- The message. -/
  message : Text
  deriving DecidableEq, Repr

/-- The fields of a form, each with a value or with none. -/
abbrev Form := List (String × Option Text)

/-- A request that sends a form. -/
structure Post where
  /-- The address. -/
  url : Text
  /-- The form. -/
  form : Form
  /-- The header fields. -/
  headers : List (String × String)
  deriving DecidableEq, Repr

/-- What an operation did. -/
inductive Event where
  /-- A record in the log. -/
  | log (record : LogRecord)
  /-- The file at a path was read, or could not be read. -/
  | fileRead (path : Path)
  /-- A session for requests was opened. -/
  | sessionOpened
  /-- A session for requests was closed. -/
  | sessionClosed
  /-- The session of the command line was taken up, for a tenant or for its own. -/
  | commandLineOpened (tenant : Option Text)
  /-- A request. -/
  | post (request : Post)
  /-- A call of the command line for a token with these scopes. -/
  | commandLineCall (scopes : List Text)
  deriving DecidableEq, Repr

namespace Event

/-- The record of an event that is one. -/
def record? : Event → Option LogRecord
  | log record => some record
  | _ => none

/-- The request of an event that is one. -/
def request? : Event → Option Post
  | post request => some request
  | _ => none

/-- The scopes of an event that is a call of the command line. -/
def scopes? : Event → Option (List Text)
  | commandLineCall scopes => some scopes
  | _ => none

end Event

/-- The events of an operation. -/
abbrev Trace := List Event

namespace Trace

/-- The trace that is nothing but log records. -/
def ofRecords (records : List LogRecord) : Trace := records.map .log

/-- The log records of a trace. -/
def logs (trace : Trace) : List LogRecord := trace.filterMap Event.record?

/-- The requests of a trace. -/
def posts (trace : Trace) : List Post := trace.filterMap Event.request?

/-- The calls of the command line in a trace. -/
def commandLineCalls (trace : Trace) : List (List Text) := trace.filterMap Event.scopes?

/-- How many sessions were opened in a trace. -/
def openings (trace : Trace) : Nat := trace.count .sessionOpened

/-- How many sessions were closed in a trace. -/
def closings (trace : Trace) : Nat := trace.count .sessionClosed

/-- A trace of log records has these records. -/
@[simp]
theorem logs_ofRecords (records : List LogRecord) : (ofRecords records).logs = records := by
  induction records with
  | nil => rfl
  | cons record rest ih =>
    change record :: (ofRecords rest).logs = record :: rest
    rw [ih]

/-- A log record in front of a trace sends nothing. -/
@[simp]
theorem posts_log (record : LogRecord) (rest : Trace) : posts (.log record :: rest) = posts rest := rfl

/-- A request in front of a trace is the first one sent. -/
@[simp]
theorem posts_post (request : Post) (rest : Trace) :
    posts (.post request :: rest) = request :: posts rest := rfl

/-- An empty trace sends nothing. -/
@[simp]
theorem posts_nil : posts [] = [] := rfl

/-- The log records of two traces one after the other. -/
@[simp]
theorem logs_append (a b : Trace) : logs (a ++ b) = logs a ++ logs b := by
  simp [logs]

/-- The requests of two traces one after the other. -/
@[simp]
theorem posts_append (a b : Trace) : posts (a ++ b) = posts a ++ posts b := by
  simp [posts]

/-- The calls of the command line in two traces one after the other. -/
@[simp]
theorem commandLineCalls_append (a b : Trace) :
    commandLineCalls (a ++ b) = commandLineCalls a ++ commandLineCalls b := by
  simp [commandLineCalls]

end Trace

end CloudAuth
