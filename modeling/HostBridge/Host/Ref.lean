/-!
# References to host objects

A host object is named by the slot that holds it and by the generation of that slot. A slot
changes its generation whenever its object is freed, so a reference that outlives its object
never names the next one.
-/

namespace HostBridge

/-- A reference to a host object. -/
@[ext]
structure Ref where
  /-- The slot that holds the object. -/
  slot : Nat
  /-- The generation of the slot when the reference was handed out. -/
  generation : Nat
  deriving DecidableEq

/-- The reference written out with its fields. -/
def Ref.describe (ref : Ref) : String :=
  "ObjRef \x7b " ++ s!"index: {ref.slot}, generation: {ref.generation} " ++ "\x7d"

end HostBridge
