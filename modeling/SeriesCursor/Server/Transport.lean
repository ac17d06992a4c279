import SeriesCursor.Text.Quoted

/-!
Ways in which a request fails before the server has answered it, each with a sentence for the reader
and a terse detail for the journal.
-/

namespace SeriesCursor

inductive TransportFault where
  | system (text : String)
  | disconnected (text : String)
  | timeout (millis : UInt64)
  deriving DecidableEq, Repr

namespace TransportFault

def message : TransportFault → String
  | .system text => "I/O error: " ++ text
  | .disconnected text => "Connection lost: " ++ text
  | .timeout millis => "Request timed out after " ++ toString millis.toNat ++ " ms"

def detail : TransportFault → String
  | .system text => "Io(Custom \x7b kind: Other, error: " ++ Text.quoted text ++ " \x7d)"
  | .disconnected text => "Disconnected(" ++ Text.quoted text ++ ")"
  | .timeout millis => "Timeout(" ++ toString millis.toNat ++ ")"

end TransportFault

end SeriesCursor
