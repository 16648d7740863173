import NullFlow.Archive.Record

namespace NullFlow.Archive

open Text (Bytes)

structure Stored where
  name : String
  data : Bytes

/-- The fields that a member's own record and its entry in the directory share. -/
def description (m : Stored) : Bytes :=
  le 2 20 ++ le 2 utf8Flag ++ le 2 0 ++ le 2 0 ++ le 2 0 ++ le 4 (Crc32.checksum m.data).toNat ++
    le 4 m.data.length ++ le 4 m.data.length ++ le 2 (Text.encode m.name).length ++ le 2 0

def localRecord (m : Stored) : Bytes :=
  Record.member.markBytes ++ description m ++ Text.encode m.name ++ m.data

def directoryRecord (offset : Nat) (m : Stored) : Bytes :=
  Record.entry.markBytes ++ le 2 20 ++ description m ++ le 2 0 ++ le 2 0 ++ le 2 0 ++ le 4 0 ++
    le 4 offset ++ Text.encode m.name

def directory : Nat → List Stored → Bytes
  | _, [] => []
  | offset, m :: rest =>
    directoryRecord offset m ++ directory (offset + (localRecord m).length) rest

def write (members : List Stored) : Bytes :=
  let records := members.flatMap localRecord
  let directory := directory 0 members
  records ++ directory ++ Record.endRecord.markBytes ++ le 2 0 ++ le 2 0 ++ le 2 members.length ++
    le 2 members.length ++ le 4 directory.length ++ le 4 records.length ++ le 2 0

end NullFlow.Archive
