import DebugBridge.Files
import DebugBridge.Key.Pair
import DebugBridge.Settings.Basic

/-!
# Key files

A key pair is kept in two files. The one with the private key has to be there, unless a new pair
may be made. The public key is offered just as its file has it; without such a file it is derived
from the private key.
-/

namespace DebugBridge.KeyPair

/-- A fault of a file with a key. -/
def fileFailure (which path : String) (fault : FileFault) : Failure :=
  .key s!"Failed to read {which} key {path}: {fault.message}"

/-- Reads a key pair. -/
def read (privateFile : String) (publicFile : Option String) (files : Files) :
    Except Failure KeyPair := do
  let text ← (files.read privateFile >>= Files.decodeText).mapError
    (fileFailure "private" privateFile)
  let privateKey ← PrivateKey.ofPem text
  match publicFile.filter (files.contains ·) with
  | none => ofPrivateKey privateKey
  | some path =>
    let bytes ← (files.read path).mapError (fileFailure "public" path)
    return { privateKey, publicBytes := nulTerminated bytes }

/-- The key pair that settings name. When there is none and the settings allow it, `generate`
makes one and keeps it in the two files. -/
def ofSettings (generate : String → String → Except Failure KeyPair) (home : Option String)
    (files : Files) (settings : KeySettings) : Except Failure KeyPair := do
  let privateFile ← settings.privateKeyFile home
  let publicFile ← settings.publicKeyFile home
  if files.contains privateFile then read privateFile (some publicFile) files
  else if settings.generateIfMissing then generate privateFile publicFile
  else throw (.key ("Private key not found: " ++ privateFile))

end DebugBridge.KeyPair
