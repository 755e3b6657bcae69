import LifecycleOperator.Cluster.Object

/-!
# Stores of objects

A store holds objects by their kind, their namespace and the name under which
they were put there.  Looking up what was just put gives it back, and putting an
object leaves all others alone.
-/

namespace LifecycleOperator

/-- What an object is found by. -/
structure Key where
  kind : Kind
  /-- The namespace that the object lies in. -/
  namespaceName : String
  /-- The name that the object has there. -/
  name : String
  deriving DecidableEq, Repr, Inhabited

/-- An object with what it is found by. -/
structure StoredObject where
  key : Key
  object : Object key.kind

/-- A store of objects. -/
structure Store where
  /-- The objects, with their keys; the first one of a key counts. -/
  objects : List StoredObject

namespace Store

def empty : Store := ⟨[]⟩

instance : Inhabited Store := ⟨empty⟩

/-- The object of a key among stored objects. -/
def findIn : List StoredObject → (key : Key) → Option (Object key.kind)
  | [], _ => none
  | stored :: rest, key =>
      if same : stored.key = key then some (same ▸ stored.object) else findIn rest key

def find? (store : Store) (key : Key) : Option (Object key.kind) :=
  findIn store.objects key

/-- Put an object in the place of the one of its key, or at the end. -/
def putIn : List StoredObject → StoredObject → List StoredObject
  | [], new => [new]
  | former :: rest, new =>
      if former.key = new.key then new :: rest else former :: putIn rest new

def put (store : Store) (key : Key) (object : Object key.kind) : Store :=
  ⟨putIn store.objects ⟨key, object⟩⟩

/-- Put an object into a namespace, under its own name. -/
def insert {kind : Kind} (store : Store) (namespaceName : String) (object : Object kind) :
    Store :=
  store.put ⟨kind, namespaceName, object.metadata.name.getD ""⟩ object

/-- Two stores hold the same objects. -/
def Same (left right : Store) : Prop :=
  ∀ key, left.find? key = right.find? key

/-- Nothing is found in the empty store. -/
@[simp] theorem find?_empty (key : Key) : empty.find? key = none := rfl

/-- An object that was put among others is found. -/
theorem findIn_putIn_self (stored : List StoredObject) (key : Key) (object : Object key.kind) :
    findIn (putIn stored ⟨key, object⟩) key = some object := by
  induction stored with
  | nil => simp [putIn, findIn]
  | cons head rest inductionStep =>
      unfold putIn
      split
      · simp [findIn]
      · rename_i different
        simpa [findIn, different] using inductionStep

/-- Objects under other keys stay as they are. -/
theorem findIn_putIn_of_ne
    (stored : List StoredObject) {key other : Key} (object : Object key.kind)
    (different : key ≠ other) :
    findIn (putIn stored ⟨key, object⟩) other = findIn stored other := by
  induction stored with
  | nil => simp [putIn, findIn, different]
  | cons head rest inductionStep =>
      unfold putIn
      split
      · rename_i same
        have notHead : head.key ≠ other := fun equal => different (same.symm.trans equal)
        simp [findIn, different, notHead]
      · simp [findIn, inductionStep]

/-- An object that was put into a store is found. -/
@[simp] theorem find?_put_self (store : Store) (key : Key) (object : Object key.kind) :
    (store.put key object).find? key = some object :=
  findIn_putIn_self store.objects key object

/-- Objects under other keys stay as they are. -/
theorem find?_put_of_ne
    (store : Store) {key other : Key} (object : Object key.kind) (different : key ≠ other) :
    (store.put key object).find? other = store.find? other :=
  findIn_putIn_of_ne store.objects object different

end Store

end LifecycleOperator
