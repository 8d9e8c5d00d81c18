import OperatorDaemon.Wallet.KeyFile
import OperatorDaemon.Wallet.Status

/-!
# The wallet

The wallet is empty, knows a node address only, or has a key loaded. Loading a key sets the node address
to that of the key; dropping the key keeps the address.
-/

namespace OperatorDaemon

/-- The files that matter, with their contents, and what is said about those that hold no key. -/
structure Disk where
  /-- Paths and contents. -/
  files : List (String × List UInt8) := []
  /-- The paths of directories. -/
  directories : List String := []
  /-- How the libraries that read DER say that something holds no key. -/
  wording : List UInt8 → String := fun _ => ""
  deriving Inhabited

namespace Disk

/-- The contents of a file, or why it cannot be read. -/
def read (d : Disk) (path : String) : Except KeyFile.FileFault (List UInt8) :=
  match d.files.lookup path with
  | some contents => .ok contents
  | none => .error (if path ∈ d.directories then .isDirectory else .absent)

/-- The key in a file. -/
def key (d : Disk) (path : String) : Except Wallet.Error PrivateKey :=
  KeyFile.keyOfFile d.wording path (d.read path)

/-- Whether a file is there. -/
def holds (d : Disk) (path : String) : Bool :=
  (d.files.lookup path).isSome

/-- The disk without a file. -/
def remove (d : Disk) (path : String) : Disk :=
  { d with files := d.files.filter (·.1 != path) }

/-- The disk with a file of the given contents. -/
def write (d : Disk) (path : String) (contents : List UInt8) : Disk :=
  { d with files := (path, contents) :: (d.remove path).files }

end Disk

/-- The node's wallet. -/
structure Wallet where
  /-- The address that the node works as. -/
  nodeAddress : Option Address := none
  /-- The loaded key. -/
  key : Option PrivateKey := none
  /-- The file from which a key was loaded last. -/
  keyPath : Option String := none
  deriving Inhabited

namespace Wallet

/-- A wallet without anything. -/
def empty : Wallet := {}

/-- Load a key. -/
def load (w : Wallet) (key : PrivateKey) : Wallet :=
  { w with nodeAddress := some key.address, key := some key }

/-- Load the key in a file and remember the file. -/
def loadFile (w : Wallet) (disk : Disk) (path : String) : Except Error (Wallet × Address) :=
  match disk.key path with
  | .error error => .error error
  | .ok key => .ok ({ w.load key with keyPath := some path }, key.address)

/-- Set the node address. -/
def setAddress (w : Wallet) (address : Address) : Wallet :=
  { w with nodeAddress := some address }

/-- Drop the key. -/
def unload (w : Wallet) : Wallet :=
  { w with key := none }

/-- The address of the key, or the address of nobody. -/
def address (w : Wallet) : Address :=
  (w.key.map PrivateKey.address).getD Address.zero

/-- A snapshot of the wallet. -/
def status (w : Wallet) (disk : Disk) : Status where
  address := ⟨w.nodeAddress.getD Address.zero, w.nodeAddress.isSome⟩
  keystore := ⟨w.key.isSome, w.keyPath.any disk.holds, w.address⟩

/-- Whether the wallet is fit for dealing with the service. -/
def isReady (w : Wallet) : Bool :=
  (w.status {}).isReady

/-- The key, if the wallet is fit for dealing with the service. -/
def readyKey? (w : Wallet) : Option PrivateKey :=
  if w.isReady then w.key else none

/-- The signature of a personal message. -/
def sign (w : Wallet) (message : List UInt8) : Except Error (List UInt8) :=
  match w.key with
  | none => .error .notLoaded
  | some key => .ok (key.sign message)

end Wallet

end OperatorDaemon
