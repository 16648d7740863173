import NullFlow.Text.Utf8

namespace NullFlow.Crc32

open Text (Bytes)

def step (crc : UInt32) : UInt32 :=
  if crc &&& 1 = 1 then (crc >>> 1) ^^^ 0xEDB88320 else crc >>> 1

def byte (crc : UInt32) (b : UInt8) : UInt32 :=
  let mixed := crc ^^^ b.toUInt32
  step (step (step (step (step (step (step (step mixed)))))))

def checksum (data : Bytes) : UInt32 :=
  data.foldl byte 0xFFFFFFFF ^^^ 0xFFFFFFFF

end NullFlow.Crc32
