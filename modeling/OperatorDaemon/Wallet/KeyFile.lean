import OperatorDaemon.Text.Pem
import OperatorDaemon.Wallet.Der
import OperatorDaemon.Wallet.Error

/-!
# Reading keys

A key is given in hexadecimal or as a PEM block. A file that begins like a PEM block is read as one, and
every other file as hexadecimal text.
-/

namespace OperatorDaemon.KeyFile

open Wallet (Error)

/-- A text without one leading `0x`. -/
def dropMark : List Char → List Char
  | '0' :: 'x' :: rest => rest
  | cs => cs

/-- The key that a hexadecimal text stands for. Blanks around it and one mark in front are dropped; the
reader of hexadecimal text drops another. -/
def keyOfHex (text : String) : Except Error PrivateKey :=
  match Hex.decode (String.ofList (dropMark (trimChars text.toList))) with
  | .error fault => .error (.invalidKey fault.message)
  | .ok bytes =>
    match PrivateKey.ofBytes? bytes with
    | none => .error (.invalidKey "signature error")
    | some key => .ok key

/-- A text, or the error that bytes are none. -/
def textOf (bytes : List UInt8) : Except Error String :=
  (Utf8.decode bytes).mapError fun fault => .invalidKey ("Invalid UTF-8: " ++ fault.message)

/-! ### PEM blocks

What is wrong with a block that holds no key is said by the libraries that read DER; `wording` tells how. -/

/-- The hexadecimal digits of the key in a PEM block. -/
def hexOfPem (wording : List UInt8 → String) (bytes : List UInt8) : Except Error String :=
  match textOf bytes with
  | .error error => .error error
  | .ok text =>
    match Pem.decode text with
    | .error fault => .error (.invalidKey ("Invalid PEM: " ++ fault.message))
    | .ok der =>
      match Der.anyKey? der with
      | none => .error (.invalidKey ("Invalid key format: " ++ wording der))
      | some key => .ok (Hex.encode key.bytes)

/-- The key in a PEM block. -/
def keyOfPem (wording : List UInt8 → String) (bytes : List UInt8) : Except Error PrivateKey :=
  match hexOfPem wording bytes with
  | .error error => .error error
  | .ok text => keyOfHex text

/-! ### Files -/

/-- Why a file cannot be read. -/
inductive FileFault where
  /-- There is no such file. -/
  | absent
  /-- It is a directory. -/
  | isDirectory
  deriving DecidableEq, Repr

/-- The wording of a fault. -/
def FileFault.message : FileFault → String
  | .absent => "No such file or directory (os error 2)"
  | .isDirectory => "Is a directory (os error 21)"

/-- How a PEM block begins. -/
def pemMark : List UInt8 := Utf8.bytes "-----BEGIN"

/-- The key in a file with the given name and contents. -/
def keyOfFile (wording : List UInt8 → String) (path : String) (contents : Except FileFault (List UInt8)) :
    Except Error PrivateKey :=
  match contents with
  | .error fault => .error (.keyFile ("failed to read " ++ path ++ ": " ++ fault.message))
  | .ok bytes =>
    if pemMark.isPrefixOf bytes then keyOfPem wording bytes
    else match textOf bytes with
      | .error error => .error error
      | .ok text =>
        if isBlankText text then .error (.keyFile ("key file is empty: " ++ path))
        else keyOfHex text

end OperatorDaemon.KeyFile
