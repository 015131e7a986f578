import TenzroEdge.Client
import TenzroEdge.Codec.Json
import TenzroEdge.Interaction.Pool
import TenzroEdge.Interaction.InPlace

/-!
# Fetching artefacts into the cache directory

`fetch` resolves a `tenzro://` URI through the SDK, hashes the bytes with BLAKE3
and writes them to a file named after the digest. `tokio::fs::write` is the
program that truncates the target and then writes the bytes in order; one command
writes one byte, since the kernel may split a write anywhere.

The disk is the contents of the files and the history of the `File::create`
calls that succeeded. What the network and the disk answer is a `Surroundings`.
-/

namespace TenzroEdge.ModelSource

open Codec Interaction Interaction.Prog

inductive ModelSourceError where
  | transient (message : String)
  | notFound (message : String)
  | unsupportedUri (uri : String)
  | other (message : String)
deriving DecidableEq

structure ModelManifest where
  name : String
  digestBlake3 : Octets 32
  format : String
  extra : List (String × Json)

structure FetchedArtefact where
  path : String
  manifest : ModelManifest

structure TenzroModelSource where
  id : String
  cacheDir : String

/-- What a fetch asks of the SDK and of the file system. -/
inductive Cmd where
  | resolve (uri : String)
  | createDirAll (dir : String)
  /-- `File::create`: truncate the file, or make it. -/
  | create (path : String)
  | writeByte (path : String) (offset : ℕ) (byte : UInt8)

/-- A failed file operation is answered by the text of its `io::Error`. -/
def io : Interface where
  Cmd := Cmd
  Reply
    | .resolve _ => Except SdkError Bytes
    | .createDirAll _ => Except String Unit
    | .create _ => Except String Unit
    | .writeByte _ _ _ => Except String Unit

def resolve (uri : String) : Prog io (Except SdkError Bytes) := request (I := io) (.resolve uri)

def createDirAll (dir : String) : Prog io (Except String Unit) :=
  request (I := io) (.createDirAll dir)

def create (path : String) : Prog io (Except String Unit) := request (I := io) (.create path)

def writeByte (path : String) (offset : ℕ) (byte : UInt8) : Prog io (Except String Unit) :=
  request (I := io) (.writeByte path offset byte)

def mapSdk (debug : SdkError → String) : SdkError → ModelSourceError
  | .connectionError message => .transient message
  | .rpcError message => .transient message
  | .timeout => .transient "timeout"
  | .notFound message => .notFound message
  | .invalidParameter message => .other ("invalid: " ++ message)
  | error => .other (debug error)

/-- `PathBuf::join` of a relative file name. -/
def join (dir name : String) : String :=
  if dir = "" ∨ dir.toList.getLast? = some '/' then dir ++ name else dir ++ "/" ++ name

/-- The writes of `write_all`, from an offset on. -/
def writeAll (path : String) (offset : ℕ) : Bytes → Prog io (Except String Unit)
  | [] => pure (.ok ())
  | byte :: rest => writeByte path offset byte >>= fun
      | .ok _ => writeAll path (offset + 1) rest
      | .error error => pure (.error error)

def write (path : String) (bytes : Bytes) : Prog io (Except String Unit) :=
  create path >>= fun
    | .ok _ => writeAll path 0 bytes
    | .error error => pure (.error error)

section

variable (debug : SdkError → String) (blake3 : Bytes → Octets 32)

def schemes : List String := ["tenzro"]

def fetch (source : TenzroModelSource) (uri : String) :
    ExceptT ModelSourceError (Prog io) FetchedArtefact := do
  if !startsWith uri "tenzro://" then
    throw (.unsupportedUri uri)
  else
    let bytes ← orFail (mapSdk debug) (resolve uri)
    let digest := blake3 bytes
    orFail (fun error => .other ("create cache dir: " ++ error))
      (createDirAll source.cacheDir)
    let path := join source.cacheDir (hexEncode digest.bytes)
    orFail (fun error => .other ("write cache: " ++ error)) (write path bytes)
    let name := lastSegment '/' uri
    return { path, manifest := { name, digestBlake3 := digest, format := "unknown", extra := [] } }

end

/-! ## The disk and the network -/

structure Surroundings where
  resolved : Except SdkError Bytes
  dirCreated : Except String Unit
  fileCreated : Except String Unit
  /-- The outcome of writing the byte at an offset. -/
  byteWritten : ℕ → Except String Unit

/-- The files by path, and every file opened for writing with the fetch that opened it, the
latest first. -/
structure Disk (ι : Type) where
  files : String → Option Bytes
  opened : List (ι × String)

namespace Disk

variable {ι : Type}

def create (disk : Disk ι) (fetcher : ι) (path : String) : Disk ι where
  files := Function.update disk.files path (some [])
  opened := (fetcher, path) :: disk.opened

/-- One byte of the file is written; a gap before it reads as zeros. -/
def writeByte (disk : Disk ι) (path : String) (offset : ℕ) (byte : UInt8) : Disk ι where
  files := Function.update disk.files path
    (some (InPlace.writeAt 0 ((disk.files path).getD []) offset byte))
  opened := disk.opened

def lastOpener (disk : Disk ι) (path : String) : Option ι :=
  (disk.opened.find? fun opening => opening.2 = path).map Prod.fst

end Disk

def serve {ι : Type} (event : Surroundings) (fetcher : ι) : Handler io (Disk ι)
  | .resolve _, disk => (event.resolved, disk)
  | .createDirAll _, disk => (event.dirCreated, disk)
  | .create path, disk => (event.fileCreated,
      match event.fileCreated with
      | .ok _ => disk.create fetcher path
      | .error _ => disk)
  | .writeByte path offset byte, disk => (event.byteWritten offset,
      match event.byteWritten offset with
      | .ok _ => disk.writeByte path offset byte
      | .error _ => disk)

section Serve

variable {ι : Type} (event : Surroundings) (fetcher : ι) (disk : Disk ι)

@[simp]
theorem run_resolve (uri : String) :
    run (serve event fetcher) (resolve uri) disk = (event.resolved, disk) := rfl

@[simp]
theorem run_createDirAll (dir : String) :
    run (serve event fetcher) (createDirAll dir) disk = (event.dirCreated, disk) := rfl

theorem run_create (path : String) :
    run (serve event fetcher) (create path) disk = (event.fileCreated,
      match event.fileCreated with
      | .ok _ => disk.create fetcher path
      | .error _ => disk) := rfl

theorem run_writeByte (path : String) (offset : ℕ) (byte : UInt8) :
    run (serve event fetcher) (writeByte path offset byte) disk = (event.byteWritten offset,
      match event.byteWritten offset with
      | .ok _ => disk.writeByte path offset byte
      | .error _ => disk) := rfl

end Serve

end TenzroEdge.ModelSource
