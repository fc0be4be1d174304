/-!
# Archives

The bytes of an archive of named texts. Every text is stored as it is: a record in front of it names
it and states its length and its checksum, and a directory at the end lists the records with their
places.
-/

namespace ToolScaffold.Archive

/-- A number in a fixed number of bytes, the least one first. -/
def littleEndian : (width : Nat) → Nat → List UInt8
  | 0, _ => []
  | width + 1, n => (n % 256).toUInt8 :: littleEndian width (n / 256)

def checksumBit (c : UInt32) : UInt32 :=
  if c &&& 1 = 1 then (c >>> 1) ^^^ 0xEDB88320 else c >>> 1

def checksumByte (c : UInt32) (b : UInt8) : UInt32 :=
  (List.range 8).foldl (fun c _ => checksumBit c) (c ^^^ b.toUInt32)

/-- The cyclic checksum of 32 bits. -/
def checksum (bytes : List UInt8) : UInt32 := bytes.foldl checksumByte 0xFFFFFFFF ^^^ 0xFFFFFFFF

def bytesOf (s : String) : List UInt8 := s.toUTF8.toList

/-- The fields that a record and its line in the directory share: the version and the flags (names
are in UTF-8), no compression, no date, then checksum, lengths and the length of the name. -/
def sharedFields (name content : List UInt8) : List UInt8 :=
  littleEndian 2 20 ++ littleEndian 2 0x0800 ++ littleEndian 2 0 ++ littleEndian 2 0 ++
    littleEndian 2 0x21 ++ littleEndian 4 (checksum content).toNat ++
    littleEndian 4 content.length ++ littleEndian 4 content.length ++
    littleEndian 2 name.length ++ littleEndian 2 0

/-- The record of a text, with the text. -/
def record (name content : List UInt8) : List UInt8 :=
  littleEndian 4 0x04034B50 ++ sharedFields name content ++ name ++ content

/-- The line of a text in the directory; `place` is where its record begins. -/
def directoryLine (name content : List UInt8) (place : Nat) : List UInt8 :=
  littleEndian 4 0x02014B50 ++ littleEndian 2 (3 * 256 + 20) ++ sharedFields name content ++
    littleEndian 2 0 ++ littleEndian 2 0 ++ littleEndian 2 0 ++ littleEndian 4 (0o100644 * 65536) ++
    littleEndian 4 place ++ name

/-- The records and the directory, from the place at which the first record begins. -/
def sections (place : Nat) : List (String × String) → List UInt8 × List UInt8
  | [] => ([], [])
  | (name, content) :: rest =>
    let name := bytesOf name
    let content := bytesOf content
    let front := record name content
    let (records, directory) := sections (place + front.length) rest
    (front ++ records, directoryLine name content place ++ directory)

def encode (entries : List (String × String)) : List UInt8 :=
  let (records, directory) := sections 0 entries
  records ++ directory ++
    littleEndian 4 0x06054B50 ++ littleEndian 2 0 ++ littleEndian 2 0 ++
    littleEndian 2 entries.length ++ littleEndian 2 entries.length ++
    littleEndian 4 directory.length ++ littleEndian 4 records.length ++ littleEndian 2 0

end ToolScaffold.Archive
