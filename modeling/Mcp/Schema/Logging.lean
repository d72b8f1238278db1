import Mcp.Json.Record

/-!
Log records that a server sends, with their levels in ascending order.
-/

namespace Mcp.Schema

open Json (Reader)

inductive Level where
  | debug
  | info
  | notice
  | warning
  | error
  | critical
  | alert
  | emergency
  deriving DecidableEq, Repr, Inhabited

namespace Level

def all : List Level := [.debug, .info, .notice, .warning, .error, .critical, .alert, .emergency]

def name : Level → String
  | .debug => "debug"
  | .info => "info"
  | .notice => "notice"
  | .warning => "warning"
  | .error => "error"
  | .critical => "critical"
  | .alert => "alert"
  | .emergency => "emergency"

def severity : Level → Nat
  | .debug => 0
  | .info => 1
  | .notice => 2
  | .warning => 3
  | .error => 4
  | .critical => 5
  | .alert => 6
  | .emergency => 7

def reader : Reader Level := Reader.choice (all.map fun level => (level.name, level))

/-- Levels in ascending order of severity. -/
def sorted (levels : List Level) : List Level :=
  levels.mergeSort fun a b => a.severity ≤ b.severity

end Level

structure LogRecord where
  level : Level
  logger : Option String
  data : Json
  deriving Repr, BEq, Inhabited

namespace LogRecord

def toJson (r : LogRecord) : Json :=
  .obj (Json.present
    [("level", some (.str r.level.name)), ("logger", r.logger.map .str), ("data", some r.data)])

def record : Record Json LogRecord :=
  Record.pure LogRecord.mk
    |>.field (.required "level" Level.reader)
    |>.field (.optional "logger" Reader.text)
    |>.field (.withDefault "data" Reader.any .null)

def reader : Reader LogRecord := Json.record "LoggingMessageParams" record

end LogRecord

end Mcp.Schema
