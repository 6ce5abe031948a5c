import DebugBridge.Client
import DebugBridge.Key.Store
import DebugBridge.Settings.Sources

/-!
# Setting up a client

A client is made from settings without connecting; only its first call connects. The way to
connect is given by the caller, since it is the only part that needs a network.
-/

namespace DebugBridge.Client

variable {World : Type}

/-- A client for the address in the settings, unless there is something wrong with them. -/
def ofSettings (connect : World → Except Failure Connection × World) (world : World)
    (settings : ClientSettings) : Except Failure (Client World) :=
  match settings.problems with
  | [] => .ok { target := settings.address, connect, world }
  | problems =>
    .error (.config (String.intercalate "; " (problems.map SettingsProblem.message)))

/-- A client with everything that the settings say: they are checked as a whole, and the key pair
that they name is there or is made. -/
def setUp (generate : String → String → Except Failure KeyPair)
    (connect : KeyPair → World → Except Failure Connection × World) (world : World)
    (home : Option String) (files : Files) (settings : Settings) :
    Except Failure (Client World) := do
  settings.check
  let pair ← KeyPair.ofSettings generate home files settings.keys
  ofSettings (connect pair) world settings.client

end DebugBridge.Client
