import DesiredState.Cycle.Error
import DesiredState.Notice
/-!
Stores of StatefulSets. A call answers with a value or a failure, of whatever errors the store has;
it may report something, and it leaves the store in a new state.
-/

set_option autoImplicit false
set_option relaxedAutoImplicit false

namespace DesiredState

structure Answer (σ α : Type) (ε : Type := CycleError) where
  result : Except ε α
  notices : List Notice
  store : σ

structure Store (σ : Type) (ε : Type := CycleError) where
  get : (ns name : String) → σ → Answer σ (Option StatefulSet) ε
  create : (ns : String) → StatefulSet → σ → Answer σ StatefulSet ε
  /-- Replaces an object and answers what is stored; refused when the object has been written
  since it was read. -/
  update : (ns : String) → StatefulSet → σ → Answer σ StatefulSet ε

def StatefulSet.objectName (o : StatefulSet) : String :=
  (ObjectMeta.text? (o.get StatefulSet.metadata) ObjectMeta.name).getD ""

def StatefulSet.version? (o : StatefulSet) : Option String :=
  ObjectMeta.text? (o.get StatefulSet.metadata) ObjectMeta.resourceVersion

end DesiredState
