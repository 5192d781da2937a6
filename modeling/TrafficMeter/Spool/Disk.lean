/-
Module: TrafficMeter.Spool.Disk
Purpose: The directory of a spool as a value: the log file, the file with its offset, the
  temporary file of a compaction, and the single steps that change them.
Main exports: Disk, Disk.Entry, Disk.Sidecar, Disk.file, Disk.content, Disk.writeOffset,
  Disk.Effect, Disk.perform, Disk.applyAll
-/
import TrafficMeter.Bytes

namespace TrafficMeter.Spool

namespace Disk

/-- What the name of the log leads to. -/
inductive Entry where
  | absent
  | file (identity : Nat)
  /-- the name cannot be opened as a file -/
  | barred
deriving DecidableEq, Repr, Inhabited

/-- What the name of a file beside the log leads to. -/
inductive Sidecar where
  | absent
  | file (content : Bytes)
  | directory
deriving DecidableEq, Repr, Inhabited

end Disk

/-- A directory.  A log file keeps its identity while it is open, also after another file has
taken over its name. -/
structure Disk where
  /-- the content of every log file there ever was, by identity -/
  files : List ByteArray := []
  log : Disk.Entry := .absent
  offset : Disk.Sidecar := .absent
  temporary : Disk.Sidecar := .absent
  /-- no log file takes further bytes at its end, while a new file can be written -/
  refusesAppends : Bool := false
  /-- nothing can be read back from a log file, whose length can still be told -/
  refusesReads : Bool := false
deriving Inhabited

namespace Disk

/-- The content of a file, packed. -/
def file (disk : Disk) (identity : Nat) : ByteArray :=
  disk.files.getD identity .empty

def content (disk : Disk) (identity : Nat) : Bytes :=
  Bytes.ofPacked (disk.file identity)

def setContent (disk : Disk) (identity : Nat) (bytes : Bytes) : Disk :=
  { disk with files := disk.files.set identity bytes.toByteArray }

def append (disk : Disk) (identity : Nat) (bytes : Bytes) : Disk :=
  { disk with files := disk.files.set identity (disk.file identity ++ bytes.toByteArray) }

/-- To append is to set the content, with the bytes behind it. -/
theorem append_eq (disk : Disk) (identity : Nat) (bytes : Bytes) :
    disk.append identity bytes = disk.setContent identity (disk.content identity ++ bytes) := by
  have packed : disk.file identity ++ bytes.toByteArray =
      (disk.content identity ++ bytes).toByteArray := by
    apply ByteArray.ext
    apply Array.toList_inj.mp
    simp [content, Bytes.ofPacked, ByteArray.data_append, List.data_toByteArray]
  rw [append, setContent, packed]

/-- A new file under the name of the log. -/
def newLog (disk : Disk) (bytes : Bytes) : Disk :=
  { disk with files := disk.files ++ [bytes.toByteArray], log := .file disk.files.length }

/-- Open the log by its name, creating it if there is none. -/
def openLog? (disk : Disk) : Option (Nat × Disk) :=
  match disk.log with
  | .file identity => some (identity, disk)
  | .absent => some (disk.files.length, disk.newLog [])
  | .barred => none

/-- The content of the log under its name, packed. -/
def logFile? (disk : Disk) : Option ByteArray :=
  match disk.log with
  | .file identity => some (disk.file identity)
  | _ => none

def offsetContent? (disk : Disk) : Option Bytes :=
  match disk.offset with
  | .file content => some content
  | _ => none

/-- The offset in the offset file: eight octets, least significant first.  Without such a file,
or with one of another length, it is zero. -/
def storedOffset (disk : Disk) : Nat :=
  match disk.offsetContent? with
  | some bytes => if bytes.length = 8 then Bytes.ofLittleEndian bytes else 0
  | none => 0

/-- Write the offset to its file.  Where that cannot be written, nothing changes. -/
def writeOffset (disk : Disk) (offset : Nat) : Disk :=
  match disk.offset with
  | .directory => disk
  | _ => { disk with offset := .file (Bytes.littleEndian 8 offset) }

/-- One step that changes the directory for good. -/
inductive Effect where
  | writeTemporary (content : Bytes)
  | renameTemporary
  | writeOffset (offset : Nat)
deriving DecidableEq, Repr

/-- Carry out one step, or say why it cannot be carried out.  A directory takes no content and is
not replaced by a file; an offset that cannot be written is passed over. -/
def perform (disk : Disk) : Effect → Except String Disk
  | .writeTemporary content =>
      match disk.temporary with
      | .directory => .error "the temporary file cannot be written"
      | _ => .ok { disk with temporary := .file content }
  | .renameTemporary =>
      match disk.temporary with
      | .file content =>
          if disk.log = .barred then .error "the log cannot be replaced"
          else .ok { disk.newLog content with temporary := .absent }
      | _ => .error "there is no temporary file"
  | .writeOffset offset => .ok (disk.writeOffset offset)

/-- Carry out steps in order, up to the first that cannot be carried out. -/
def applyAll (disk : Disk) : List Effect → Except String Unit × Disk
  | [] => (.ok (), disk)
  | effect :: later =>
      match disk.perform effect with
      | .ok next => next.applyAll later
      | .error reason => (.error reason, disk)

/-!
### What others do to the directory

A spool shares its directory with whoever administers it.  These are the changes that happen
without the spool.
-/

/-- Overwrite the log, creating it if there is none. -/
def overwriteLog (disk : Disk) (bytes : Bytes) : Disk :=
  match disk.openLog? with
  | some (identity, disk) => disk.setContent identity bytes
  | none => disk

def appendLog (disk : Disk) (bytes : Bytes) : Disk :=
  match disk.openLog? with
  | some (identity, disk) => disk.append identity bytes
  | none => disk

/-- Set the length of the log: cut it, or fill it up with zeros. -/
def resizeLog (disk : Disk) (length : Nat) : Disk :=
  match disk.log with
  | .file identity =>
      let kept := (disk.content identity).take length
      disk.setContent identity (kept ++ List.replicate (length - kept.length) 0)
  | _ => disk

def overwriteOffset (disk : Disk) (bytes : Bytes) : Disk :=
  match disk.offset with
  | .directory => disk
  | _ => { disk with offset := .file bytes }

def removeOffset (disk : Disk) : Disk :=
  match disk.offset with
  | .directory => disk
  | _ => { disk with offset := .absent }

def blockOffset (disk : Disk) : Disk :=
  { disk with offset := .directory }

def unblockOffset (disk : Disk) : Disk :=
  match disk.offset with
  | .directory => { disk with offset := .absent }
  | _ => disk

def blockTemporary (disk : Disk) : Disk :=
  { disk with temporary := .directory }

def unblockTemporary (disk : Disk) : Disk :=
  match disk.temporary with
  | .directory => { disk with temporary := .absent }
  | _ => disk

end Disk

end TrafficMeter.Spool
