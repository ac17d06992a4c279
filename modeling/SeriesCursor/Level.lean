import SeriesCursor.Settings.Basic
import SeriesCursor.Text.Quoted

/-!
Levels of detail of a log. A level is read from its word, in any ASCII letter case, or from its number;
the empty text means errors only. Both levels of the settings are read, the one of the console first.
-/

namespace SeriesCursor

inductive Level where
  | off
  | error
  | warn
  | info
  | debug
  | trace
  deriving DecidableEq, Repr

namespace Level

/-- From the least detail to the most; a level's number is its place here. -/
def all : List Level :=
  [.off, .error, .warn, .info, .debug, .trace]

def name : Level → String
  | .off => "off"
  | .error => "error"
  | .warn => "warn"
  | .info => "info"
  | .debug => "debug"
  | .trace => "trace"

def number? (text : List Char) : Option Nat :=
  let digits := match text with
    | '+' :: rest => rest
    | digits => digits
  if digits.isEmpty || !digits.all Char.isDigit then none
  else some (Nat.ofDigitChars 10 digits 0)

def ofName? (text : String) : Option Level :=
  all.find? fun level => level.name.toList == text.toList.map Char.toLower

def ofText? (text : String) : Option Level :=
  match (number? text.toList).bind (all[·]?) with
  | some level => some level
  | none => if text.isEmpty then some .error else ofName? text

end Level

inductive LogFault where
  | stdoutLevel (text : String)
  | fileLevel (text : String)
  | alreadyStarted
  deriving DecidableEq, Repr

def LogFault.message : LogFault → String
  | .stdoutLevel text => "invalid logging.stdout_level " ++ Text.quoted text
  | .fileLevel text => "invalid logging.file_level " ++ Text.quoted text
  | .alreadyStarted => "a global tracing subscriber is already installed"

namespace LoggingSettings

def levels (settings : LoggingSettings) : Except LogFault (Level × Level) :=
  match Level.ofText? settings.stdoutLevel with
  | none => .error (.stdoutLevel settings.stdoutLevel)
  | some stdout =>
    match Level.ofText? settings.fileLevel with
    | none => .error (.fileLevel settings.fileLevel)
    | some file => .ok (stdout, file)

/-- What comes of starting a log where one is running already: always a fault, that of a level first. -/
def restart (settings : LoggingSettings) : LogFault :=
  match settings.levels with
  | .error fault => fault
  | .ok _ => .alreadyStarted

end LoggingSettings

end SeriesCursor
