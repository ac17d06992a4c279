/-!
Settings of a program that reads result sets: how it asks for pages, and where its journal goes.
-/

namespace SeriesCursor

structure ClientSettings where
  /-- Rows wanted in a page; a hint to the server. -/
  fetchSize : Int32 := 10000
  includesTime : Bool := true
  deriving DecidableEq, Repr

structure LoggingSettings where
  directory : String
  stdoutLevel : String
  fileLevel : String
  deriving DecidableEq, Repr

structure Settings where
  client : ClientSettings
  logging : LoggingSettings
  deriving DecidableEq, Repr

end SeriesCursor
