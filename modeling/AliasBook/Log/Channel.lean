import AliasBook.Log.Formatter
import AliasBook.Log.Notice

/-! Where log records go. The library's loggers hang below one logger of their own, which hangs below the root
    logger. Until it is configured the library's logger has no handler and hands its records on to the root
    logger; once configured it writes them itself and hands nothing on. -/

namespace AliasBook

/-- Where lines are written. -/
inductive Sink where
  | screen
  | file (name : String)
deriving DecidableEq

/-- The sink with the name that a configuration gives it. -/
def Sink.ofName (name : String) : Sink :=
  if name = "stderr" then .screen else .file name

/-- Who gets a record: the root logger, or a sink. -/
inductive Receiver where
  | root
  | sink (s : Sink)
deriving DecidableEq

/-- Writes records as lines to a sink. -/
structure Handler where
  formatter : Formatter
  sink : Sink
deriving DecidableEq

/-- The state of logging. -/
structure Channel where
  /-- The level of the root logger. -/
  rootLevel : Int := Level.warning
  /-- The level of the library's logger, unset if it is the root logger's. -/
  level : Int := Level.unset
  handlers : List Handler := []
  /-- Records of the library go on to the root logger. -/
  propagates : Bool := true
  isConfigured : Bool := false
  /-- The text of each file that was opened. -/
  files : List (String × String) := []
  /-- The text written to the screen. -/
  screen : String := ""
  /-- Every record that was not dropped with who got it, newest first. -/
  delivered : List (Receiver × Record) := []

namespace Channel

/-- The logger is the library's own or hangs below it. -/
def isInside (logger : String) : Bool :=
  logger == Notice.rootLogger || (Notice.rootLogger ++ ".").toList.isPrefixOf logger.toList

/-- The level that a record of the logger has to reach. -/
def levelOf (c : Channel) (logger : String) : Int :=
  if isInside logger && c.level != Level.unset then c.level else c.rootLevel

/-- The name that records of a logger show: a logger without a name is the root logger. -/
def loggerName (logger : String) : String :=
  if logger = "" then "root" else logger

/-- The records that reached the root logger, in order. -/
def atRoot (c : Channel) : List Record :=
  (c.delivered.filter fun d => d.1 = .root).reverse.map Prod.snd

/-- The text of a file. -/
def file? (c : Channel) (name : String) : Option String :=
  c.files.lookup name

/-- The files with `more` behind the text of one of them, which is opened if it was not. -/
def appendTo (name more : String) : List (String × String) → List (String × String)
  | [] => [(name, more)]
  | f :: fs => if f.1 = name then (name, f.2 ++ more) :: fs else f :: appendTo name more fs

/-- Writes a text to a sink. -/
def write (c : Channel) (more : String) : Sink → Channel
  | .screen => { c with screen := c.screen ++ more }
  | .file name => { c with files := appendTo name more c.files }

/-- Notes that a record was delivered. -/
def deliver (c : Channel) (receiver : Receiver) (r : Record) : Channel :=
  { c with delivered := (receiver, r) :: c.delivered }

/-- Hands a record that was made at the given time to a handler, which writes its line. A record without a
    line is not written. -/
def handle (c : Channel) (time : Instant) (r : Record) (h : Handler) : Channel :=
  let written :=
    match h.formatter.line time r with
    | .ok line => c.write (line ++ "\n") h.sink
    | .error _ => c
  written.deliver (.sink h.sink) r

/-- Logs a record: it is dropped unless its level reaches the one of its logger; else each handler of the
    library's logger gets it, if it comes from inside the library, and then the root logger does unless
    it is held back. -/
def log (c : Channel) (time : Instant) (r : Record) : Channel :=
  if r.level < c.levelOf r.logger then c
  else if isInside r.logger then
    let handled := c.handlers.foldl (fun c h => c.handle time r h) c
    if c.propagates then handled.deliver .root r else handled
  else c.deliver .root { r with logger := loggerName r.logger }

/-- Opens a sink. A file is there from then on, and what it holds stays. -/
def openSink (c : Channel) (output : String) : Channel :=
  c.write "" (Sink.ofName output)

/-- Configures the library's logger: level, layout and sink, in place of what was there. -/
def configure (c : Channel) (level : Int) (formatter : Formatter) (output : String) : Channel :=
  { c with
    level, handlers := [⟨formatter, Sink.ofName output⟩], propagates := false, isConfigured := true }

/-- Takes the configuration back. -/
def reset (c : Channel) : Channel :=
  { c with level := Level.unset, handlers := [], propagates := true, isConfigured := false }

end Channel

end AliasBook
