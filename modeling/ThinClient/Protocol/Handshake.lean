import ThinClient.Protocol.Message

/-!
# The handshake

The first exchange on a connection settles the version. The client names the version it speaks and
what kind of client it is; the server answers with the octet 1, or with another octet, the version
it speaks and a tagged text or null.
-/

namespace ThinClient.Handshake

/-- The octet that asks for a handshake. -/
def code : UInt8 := 1

/-- The octet for clients of this kind. -/
def clientType : UInt8 := 2

/-- The octet with which a server accepts. -/
def accepted : UInt8 := 1

/-- The frame that asks for a version. -/
def request (version : Version) : Bytes :=
  Word.encode (8 : Int32) ++ code :: Word.encode version.major ++ Word.encode version.minor ++
    Word.encode version.patch ++ [clientType]

/-- Takes a version. -/
def readVersion : Reader Version :=
  return ⟨← Reader.word Int16, ← Reader.word Int16, ← Reader.word Int16⟩

/-- Takes what a server answers: nothing if it accepts, how it refuses otherwise. -/
def readAnswer (requested : Version) : Reader (Option HandshakeError) := do
  if (← Reader.word UInt8) = accepted then return none
  let serverVersion ← readVersion
  let explanation ← WireValue.readNullableText
  return some { requested, serverVersion, explanation }

/-- Whether the frame of a server's answer accepts the handshake, and why not. -/
def ofFrame (requested : Version) (frame : Bytes) : Except Error Unit :=
  match readAnswer requested frame with
  | .ok none _ => .ok ()
  | .ok (some refusal) _ => .error refusal
  | .error e _ => .error e

end ThinClient.Handshake
