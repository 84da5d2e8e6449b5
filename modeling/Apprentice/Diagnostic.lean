/-!
# Diagnostics

How a refusal is reported: a stable code, a message, and advice on what to do about it. Each error
type says what its diagnostics are; the causes themselves stay values.
-/

namespace Apprentice

structure Diagnostic where
  code : String
  /-- Absent where the message quotes a reader of files word by word. -/
  message : Option String
  help : Option String
  deriving DecidableEq, Repr

end Apprentice
