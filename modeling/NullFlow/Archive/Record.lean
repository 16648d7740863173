import NullFlow.Archive.Crc32

namespace NullFlow.Archive

open Text (Bytes)

def le (width : Nat) (n : Nat) : Bytes :=
  (List.range width).map fun k => (n / Nat.pow 256 k % 256).toUInt8

def number (bytes : Bytes) : Nat :=
  bytes.foldr (fun b n => b.toNat + 256 * n) 0

def slice? (s : Bytes) (position width : Nat) : Option Bytes :=
  let bytes := (s.drop position).take width
  if bytes.length = width then some bytes else none

inductive Record where
  | endRecord | wideEndRecord | locator | entry | member

namespace Record

def size : Record → Nat
  | .endRecord => 22
  | .wideEndRecord => 56
  | .locator => 20
  | .entry => 46
  | .member => 30

def mark : Record → Nat
  | .endRecord => 0x06054b50
  | .wideEndRecord => 0x06064b50
  | .locator => 0x07064b50
  | .entry => 0x02014b50
  | .member => 0x04034b50

def markBytes (r : Record) : Bytes := le 4 r.mark

end Record

def utf8Flag : Nat := 0x800

def encryptedFlag : Nat := 1

def hasFlag (flags flag : Nat) : Bool := flags / flag % 2 = 1

inductive Error where
  | noEndRecord | longComment | badStart | noDirectory | severalDisks
  | ended (record : Record) | badMark (record : Record) | longField
  | badLocator | severalLocatorDisks | noWideEndRecord
  | shortWideEndRecord | longWideEndRecord | wideEndDisk | wideEndLength | wideEndCount
  | wideEndDiskCount | wideEndVersion | directoryTooFar | memberTooFar
  | extraHeader | extraContent | wideLength | wideContent
  | nameChecksum (given actual : UInt32) | nameTooShort | notUtf8
  | timeFlags | timeEnded | fileTimeLength | fileTimeTag | fileTimeSize
  | aesLength | aesVendor | aesVersion | aesStrength | aesMissing
  | passwordRequired | badPassword | method (number : Nat) | missing | bufferEnded

def hexText (n : UInt32) : String :=
  let digits := (Nat.toDigits 16 n.toNat).map Char.toUpper
  "0x" ++ String.ofList (List.replicate (6 - digits.length) '0' ++ digits)

def Record.text : Record → String
  | .endRecord => "zip::spec::Zip32CDEBlock"
  | .wideEndRecord => "zip::spec::Zip64CDEBlock"
  | .locator => "zip::spec::Zip64CDELocatorBlock"
  | .entry => "zip::spec::ZipCentralEntryBlock"
  | .member => "zip::spec::ZipLocalEntryBlock"

def Record.unlike : Record → String
  | .endRecord => "Invalid digital signature header"
  | .wideEndRecord => "Invalid digital signature header"
  | .locator => "Invalid zip64 locator digital signature header"
  | .entry => "Invalid Central Directory header"
  | .member => "Invalid local file header"

def invalidText (reason : String) : String := "invalid Zip archive: " ++ reason

def unsupportedText (reason : String) : String := "unsupported Zip archive: " ++ reason

def Error.message : Error → String
  | .noEndRecord => invalidText "Could not find EOCD"
  | .longComment => invalidText "EOCD comment exceeds file boundary"
  | .badStart => invalidText "Invalid CDFH offset in EOCD"
  | .noDirectory => invalidText "No CDFH found"
  | .severalDisks => unsupportedText "Support for multi-disk files is not implemented"
  | .ended record => invalidText ("Unexpected end of " ++ record.text)
  | .badMark record => invalidText record.unlike
  | .longField => invalidText "Variable-length field extends beyond file boundary"
  | .badLocator => invalidText "Invalid EOCD64 Locator CD offset"
  | .severalLocatorDisks => invalidText "Multi-disk ZIP files are not supported"
  | .noWideEndRecord => invalidText "Could not find EOCD64"
  | .shortWideEndRecord => invalidText "Low EOCD64 record size"
  | .longWideEndRecord => invalidText "EOCD64 extends beyond EOCD64 locator"
  | .wideEndDisk => invalidText "Invalid EOCD64: inconsistency with Locator data"
  | .wideEndLength => invalidText "Invalid EOCD64: inconsistent length"
  | .wideEndCount => invalidText "Invalid EOCD64: inconsistent number of files"
  | .wideEndDiskCount =>
    invalidText "ZIP64 footer indicates more files on this disk than in the whole archive"
  | .wideEndVersion => invalidText <|
    "ZIP64 footer indicates a new version is needed to extract this archive than the version " ++
      "that wrote it"
  | .directoryTooFar => invalidText "Invalid central directory size or offset"
  | .memberTooFar => invalidText "Archive header is too large"
  | .extraHeader => invalidText "Extra field header truncated"
  | .extraContent => invalidText "Extra field content truncated"
  | .wideLength => invalidText "ZIP64 extra-data field is the wrong length"
  | .wideContent => invalidText "ZIP64 extra-data field truncated"
  | .nameChecksum given actual => invalidText <|
    "CRC32 checksum failed on Unicode extra field, it is '" ++ hexText given ++
      "' and it should be '" ++ hexText actual ++ "'"
  | .nameTooShort => invalidText "Unicode extra field is too small"
  | .notUtf8 => invalidText "Invalid UTF-8"
  | .timeFlags => unsupportedText "flags and len don't match in extended timestamp field"
  | .timeEnded => invalidText "Extended timestamp field truncated"
  | .fileTimeLength => unsupportedText "NTFS extra field has an unsupported length"
  | .fileTimeTag => unsupportedText "NTFS extra field has an unsupported attribute tag"
  | .fileTimeSize => unsupportedText "NTFS extra field has an unsupported attribute size"
  | .aesLength => unsupportedText "AES extra data field has an unsupported length"
  | .aesVendor => invalidText "Invalid AES vendor"
  | .aesVersion => invalidText "Invalid AES vendor version"
  | .aesStrength => invalidText "Invalid AES encryption strength"
  | .aesMissing => invalidText "AES encryption without AES extra data field"
  | .passwordRequired => unsupportedText "Password required to decrypt file"
  | .badPassword => "provided password is incorrect"
  | .method number => s!"compression method not supported: {number}"
  | .missing => "specified file not found in archive"
  | .bufferEnded => "i/o error: failed to fill whole buffer: failed to fill whole buffer"

end NullFlow.Archive
