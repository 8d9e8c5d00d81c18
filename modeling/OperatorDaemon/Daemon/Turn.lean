import OperatorDaemon.Api.Router
import OperatorDaemon.Session.Gate
import OperatorDaemon.Session.Registration

/-!
# Turns

Everything that can happen to a running daemon, one turn after another: the wallet and its files change,
the session is used, a request comes in. In each turn the service replies as it likes, and the turn may be
broken off while it waits for a reply.
-/

namespace OperatorDaemon.Daemon

open OperatorDaemon.Module (Answer Operation)
open Service (Client Connection Reply)

/-- Something that the daemon is made to do, or that happens to its files. -/
inductive Task where
  /-- Load the key that a hexadecimal text stands for. -/
  | loadHex (text : String)
  /-- Load the key in a file. -/
  | loadFile (path : String)
  /-- A file appears. -/
  | writeFile (path : String) (contents : List UInt8)
  /-- A file goes away. -/
  | removeFile (path : String)
  /-- Set the node address. -/
  | setAddress (address : Address)
  /-- Drop the key. -/
  | unload
  /-- Sign a message. -/
  | sign (message : List UInt8)
  /-- Require that the wallet is ready. -/
  | requireWallet
  /-- Require that the node is registered. -/
  | requireRegistered
  /-- Look up the registration status. -/
  | lookUp
  /-- Log in. -/
  | logIn
  /-- Register the node under an email address. -/
  | register (email : String)
  /-- Wait for the registration, in a daemon that is shut down so many looks after the first one, or
  never. -/
  | wait (moreLooks? : Option Nat)
  /-- Carry out an operation of a module. -/
  | operate (o : Operation)
  /-- Answer a request, which is given the id unless it has one. -/
  | handle (freshId : String) (r : Api.Request)

namespace Task

/-- What a task results in. -/
abbrev Result : Task → Type
  | loadHex _ | loadFile _ => Except Wallet.Error Address
  | writeFile .. | removeFile _ | setAddress _ | unload => Unit
  | sign _ => Except Wallet.Error (List UInt8)
  | requireWallet | requireRegistered => Except Requirement Unit
  | lookUp => Status × Option Service.Error
  | logIn => Except Service.Error Unit
  | register _ => Except Service.Error Registration
  | wait _ => Waiting
  | operate _ => Except Service.Error Answer
  | handle .. => Api.Response

/-- Replace the wallet. -/
def putWallet (wallet : Wallet) : Act Unit := fun _ w => (some (), { w with wallet })

/-- Replace the files. -/
def putDisk (disk : Disk) : Act Unit := fun _ w => (some (), { w with disk })

/-- Carry out a task. -/
def act : (t : Task) → Act t.Result
  | loadHex text => do
    match KeyFile.keyOfHex text with
    | .error error => return .error error
    | .ok key =>
      putWallet ((← Act.world).wallet.load key)
      return .ok key.address
  | loadFile path => do
    let w ← Act.world
    match w.wallet.loadFile w.disk path with
    | .error error => return .error error
    | .ok (wallet, address) =>
      putWallet wallet
      return .ok address
  | writeFile path contents => do putDisk ((← Act.world).disk.write path contents)
  | removeFile path => do putDisk ((← Act.world).disk.remove path)
  | setAddress address => do putWallet ((← Act.world).wallet.setAddress address)
  | unload => do putWallet (← Act.world).wallet.unload
  | sign message => do return (← Act.world).wallet.sign message
  | requireWallet => Act.requireWallet
  | requireRegistered => Act.requireRegistered
  | lookUp => Act.registrationStatus
  | logIn => Act.logIn
  | register email => Act.register email
  | wait moreLooks? => Act.wait moreLooks?
  | operate o => o.run
  | handle freshId r => Api.handle freshId r

end Task

/-- A task, and what the daemon finds given while it carries it out. -/
structure Turn where
  /-- The task. -/
  task : Task
  /-- The way to the service. -/
  connection : Connection
  /-- What the service does with requests. -/
  replies : List Reply := []
  /-- The time. -/
  now : String

namespace Turn

/-- What a turn results in, unless it is broken off, and the world afterwards. Replies that are left over
are of no use to later turns. -/
def take (client : Client) (t : Turn) (w : World) : Option t.task.Result × World :=
  let (result, w) := t.task.act ⟨client, t.connection, t.now⟩ { w with replies := t.replies }
  (result, { w with replies := [] })

/-- The world after turns. -/
def takeAll (client : Client) (turns : List Turn) (w : World) : World :=
  turns.foldl (fun w t => (t.take client w).2) w

end Turn

end OperatorDaemon.Daemon
