import TtpConformance.Run.Program

/-!
# The lock directory

A node is locked while a file named after it exists in a directory that all nodes of the lab
share. Making the file fails if it exists already, so making it and finding it are one step; there
is no waiting.

The directory is a value here: its path and the names in it. Names are looked up as a file system
does: a slash makes the part before it a directory, of which there are none inside, and a name has
at most 255 octets.

## Main definitions

* `LockDirectory` — the directory.
* `LockDirectory.create`, `LockDirectory.remove` — the two steps on files.
* `LockDirectory.acquire`, `LockDirectory.release` — taking a lock and giving it back.
* `LockDirectory.world` — the surroundings of programs that only use locks.
-/

namespace TtpConformance

/-- A directory of files, by its path and the names in it. -/
structure LockDirectory where
  path : String
  /-- Whether the directory is there. -/
  exists? : Bool := true
  names : List String := []
  deriving DecidableEq, Repr

namespace LockDirectory

/-- Why a file operation failed. -/
inductive FileError where
  /-- The file exists already. -/
  | alreadyExists
  /-- Any other cause, by its wording. -/
  | other (reason : String)
  deriving DecidableEq, Repr

/-- There is no such file. -/
def notFound : FileError := .other "No such file or directory (os error 2)"

/-- A part of the path is a file. -/
def notDirectory : FileError := .other "Not a directory (os error 20)"

/-- The path names a directory. -/
def isDirectory : FileError := .other "Is a directory (os error 21)"

/-- A part of the path is too long. -/
def nameTooLong : FileError := .other "File name too long (os error 36)"

/-- The path cannot be passed to the system. -/
def unexpectedNul : FileError := .other "file name contained an unexpected NUL byte"

/-- The greatest number of octets in a name. -/
def maxNameLength : Nat := 255

/-- Looks a relative path up: `ok` if it is a plain name in the directory. -/
def locate (d : LockDirectory) (name : String) : Except FileError Unit :=
  if name.toList.contains (Char.ofNat 0) then .error unexpectedNul
  else if !d.exists? then .error notFound
  else
    let first := name.toList.takeWhile (· != '/')
    let behind := name.toList.dropWhile (· != '/')
    if maxNameLength < (String.ofList first).utf8ByteSize then .error nameTooLong
    else if behind.isEmpty then .ok ()
    else if behind.all (· == '/') then .error isDirectory
    else if d.names.contains (.ofList first) then .error notDirectory
    else .error notFound

/-- Makes a file, which must not exist. -/
def create (d : LockDirectory) (name : String) : Except FileError LockDirectory :=
  match d.locate name with
  | .error e => .error e
  | .ok () =>
    if d.names.contains name then .error .alreadyExists
    else .ok { d with names := name :: d.names }

/-- Removes a file, which must exist. -/
def remove (d : LockDirectory) (name : String) : Except FileError LockDirectory :=
  match d.locate name with
  | .error e => .error e
  | .ok () =>
    if d.names.contains name then .ok { d with names := d.names.erase name }
    else .error notFound

/-- Makes a file if it does not exist. -/
def touch (d : LockDirectory) (name : String) : Except FileError LockDirectory :=
  match d.create name with
  | .error .alreadyExists => .ok d
  | result => result

/-- The name of a node's lock file. -/
def lockName (owner : String) : String := "ttp-host-lock-" ++ owner

/-- The path of a node's lock file. -/
def lockPath (d : LockDirectory) (owner : String) : String := d.path ++ "/" ++ lockName owner

/-- Takes the lock of a node. -/
def acquire (d : LockDirectory) (owner : String) : Except RunError Lock × LockDirectory :=
  let path := d.lockPath owner
  match d.create (lockName owner) with
  | .ok d => (.ok { path, owner }, d)
  | .error .alreadyExists =>
    (.error (.resourceBusy (owner ++ " already locked (" ++ path ++ " exists)")), d)
  | .error (.other reason) => (.error (.io reason), d)

/-- Gives a lock back. -/
def release (d : LockDirectory) (lock : Lock) : Except RunError Unit × LockDirectory :=
  match d.remove (lockName lock.owner) with
  | .ok d => (.ok (), d)
  | .error .alreadyExists => (.ok (), d)
  | .error (.other reason) => (.error (.io reason), d)

/-- The names in the directory, in order. -/
def sortedNames (d : LockDirectory) : List String := d.names.mergeSort fun a b => decide (a ≤ b)

/-- Surroundings in which locks are files and a command cannot be started. -/
def world : World LockDirectory
  | .command .., d => (.error "no commands here", d)
  | .together _, d => ([], d)
  | .pause _, d => ((), d)
  | .acquire owner, d => d.acquire owner
  | .release lock, d => d.release lock

end LockDirectory

end TtpConformance
