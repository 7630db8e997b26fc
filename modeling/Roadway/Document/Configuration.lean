import Roadway.Document.Network
import Roadway.Document.Settings
import Roadway.Session.Basic

/-!
# Configurations

A network description and session settings, read from two documents and checked.
Both documents are read before either is checked, the network first.

## Main definitions

* `Configuration` — a checked description and checked settings.
* `Configuration.ofDocuments` — the configuration in two documents.
* `Configuration.openSession` — a session over a configuration.
-/
namespace Roadway

structure Configuration where
  network : NetworkDescription Float
  session : SessionSettings Float
  deriving DecidableEq, Repr

/-- Why there is no configuration. -/
inductive ConfigurationFault
  | unreadableNetwork (path : String)
  | unreadableSession (path : String)
  /-- A document is no TOML or lacks the structure it needs. -/
  | malformed
  | network (fault : NetworkFault)
  | session (fault : SettingsFault Float)
  deriving DecidableEq, Repr

def ConfigurationFault.message : ConfigurationFault → String
  | unreadableNetwork path => "reading network description " ++ path
  | unreadableSession path => "reading session config " ++ path
  | malformed => "malformed document"
  | network fault => fault.message
  | session fault => fault.message

namespace Configuration

/-- The first fault of a network description and session settings. -/
def fault? (network : NetworkDescription Float) (session : SessionSettings Float) :
    Option ConfigurationFault :=
  network.fault?.map .network <|> session.fault?.map .session

/-- The configuration in a network document and a settings document. -/
def ofDocuments (network session : String) : Except ConfigurationFault Configuration :=
  match NetworkDescription.read? network, SessionSettings.read? session with
  | some network, some session =>
    match fault? network session with
    | some fault => .error fault
    | none => .ok ⟨network, session⟩
  | _, _ => .error .malformed

/-- The configuration in two files, given how files are read. -/
def load (readFile : String → Option String) (networkPath sessionPath : String) :
    Except ConfigurationFault Configuration :=
  match readFile networkPath with
  | none => .error (.unreadableNetwork networkPath)
  | some network =>
    match readFile sessionPath with
    | none => .error (.unreadableSession sessionPath)
    | some session => ofDocuments network session

/-- A session without entities. -/
def openSession (c : Configuration) (deviates : DeviateStream Float) : Session Float :=
  Session.fresh (LaneIndex.ofNetwork (Network.lay c.network) c.session.mapping.indexCellSize)
    c.session deviates

end Configuration
end Roadway
