import ThinClient.Text.LowerCase
import ThinClient.Text.Utf8

/-!
# Ids of names

Requests name caches, types and fields by 32-bit ids, which are hashes of the UTF-8 form of the
name. The hash of octets `b₁ … bₙ` is `31 ^ (n - 1) * b₁ + … + bₙ` modulo `2 ^ 32`, read as a
signed number. Types and fields are hashed after lower-casing, caches as they are.
-/

namespace ThinClient

/-- The hash of octets. -/
def hashBytes (bs : Bytes) : Int32 :=
  (bs.foldl (fun h b => 31 * h + b.toUInt32) (0 : UInt32)).toInt32

/-- The hash of a name; an empty name has the hash 1. -/
def hashCode (name : String) : Int32 :=
  if name.isEmpty then 1 else hashBytes (Utf8.encode name)

/-- The id of a cache. -/
def cacheId (name : String) : Int32 :=
  hashCode name

/-- The id of a type or a field. -/
def nameId (name : String) : Int32 :=
  hashCode (LowerCase.text name)

end ThinClient
