import StoreBench.Hash
import StoreBench.Store.Tables

namespace StoreBench

/-! Tables spread over shards: the hash of a key says which shard holds its records.
There is no order across shards, so scans are not supported. -/

structure Sharded where
  hash : String → UInt64
  shards : Array Tables
  nonempty : 0 < shards.size

def hashText (text : String) : UInt64 :=
  text.toUTF8.data.foldl (fun hash byte => Fnv.absorb hash byte.toUInt64) Fnv.basis

namespace Sharded

def make (hash : String → UInt64) (count : Nat) (positive : 0 < count) : Sharded where
  hash
  shards := Array.replicate count ∅
  nonempty := by simpa using positive

def index (sharded : Sharded) (key : String) : Nat :=
  (sharded.hash key).toNat % sharded.shards.size

theorem index_lt (sharded : Sharded) (key : String) :
    sharded.index key < sharded.shards.size :=
  Nat.mod_lt _ sharded.nonempty

def shard (sharded : Sharded) (key : String) : Tables :=
  have bound := sharded.index_lt key
  sharded.shards[sharded.index key]

def setShard (sharded : Sharded) (key : String) (tables : Tables) : Sharded where
  hash := sharded.hash
  shards := sharded.shards.set (sharded.index key) tables (sharded.index_lt key)
  nonempty := by simpa using sharded.nonempty

def delegate (sharded : Sharded) (key : String) (request : Request) : Answer × Sharded :=
  let (answer, tables) := (sharded.shard key).answer request
  (answer, sharded.setShard key tables)

def answer (sharded : Sharded) (request : Request) : Answer × Sharded :=
  match request with
  | .read _ key _ => (((sharded.shard key).answer request).1, sharded)
  | .scan .. => (.only .notImplemented, sharded)
  | .update _ key _ | .insert _ key _ | .delete _ key => sharded.delegate key request

end Sharded
end StoreBench
