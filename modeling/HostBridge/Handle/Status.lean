import HostBridge.Bridge

/-!
# The outcome of calls

A call through handles reports its outcome twice: by what it returns, and by the last error, which
holds a code and a text. A call is refused with code -1 when a handle or another pointer is null
or a kind is unknown; a fault is reported by the code of its category.
-/

namespace HostBridge.Call

/-- The code of a refused call. -/
def refusedCode : Int := -1

/-- Record an outcome. -/
def setLastError (code : Int) (message : String) : Call Unit :=
  modify fun bridge => { bridge with lastError := ⟨code, message⟩ }

/-- Record a fault, and yield its code. -/
def fail (fault : Fault) : Call Int := do
  let code := fault.category.code
  emit (.callFailed code fault.message)
  setLastError code fault.message
  return code

/-- Refuse a call for a reason. -/
def refuse (reason : String) : Call Int := do
  emit (.callRefused reason)
  setLastError refusedCode reason
  return refusedCode

/-- Record success. -/
def succeed : Call Int := do
  setLastError 0 ""
  return 0

/-- Record an outcome, and yield its code. -/
def status : Except Fault Unit → Call Int
  | .ok () => succeed
  | .error fault => fail fault

/-- The code of the last error. -/
def lastError : Call Int := do return (← get).lastError.code

/-- Forget the last error. -/
def clearError : Call Unit := do
  let _ ← succeed

/-- The text of the last error, as bytes. -/
def lastMessage : Call Bytes := do return (← get).lastError.message.toUTF8.data.toList

/-- The length of the text of the last error, and `out` after as much of the text as fits has been
written to it, followed by a zero byte. -/
def writeMessage (out : Bytes) : Call (Nat × Bytes) := do
  let text ← lastMessage
  if out.isEmpty then return (text.length, out)
  return (text.length, out.overwrite 0 (text.take (out.length - 1) ++ [0]))

end HostBridge.Call
